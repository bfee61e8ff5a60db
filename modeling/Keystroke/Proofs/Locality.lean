import Keystroke.Proofs.Consumption
import Keystroke.Proofs.Words
import Mathlib.Data.List.Forall2

/-! A statement is read from its own words only, so it does not matter whether the statements of a program
share lines or stand on lines of their own. The listings differ in nothing but the words that diagnostics
show, which are those up to the end of the line. -/
namespace Keystroke.Statement

/-- A diagnostic without the words it shows. -/
def Diagnostic.wordless (d : Diagnostic) : Diagnostic :=
  { d with words := [] }

theorem Resolution.alone_wordless (r : Resolution) (words : List String) :
    (r.alone words).diagnostic.map Diagnostic.wordless = r.diagnostic.map Diagnostic.wordless := by
  simp only [Resolution.alone, Option.map_map]
  rfl

end Keystroke.Statement

namespace Keystroke.Listing

open Keystroke.Command Keystroke.Statement Keystroke.Text

/-- An entry without the words that a diagnostic shows. -/
def Entry.wordless : Entry → Entry
  | .instruction keycodes text => .instruction keycodes text
  | .report d => .report d.wordless

/-- The words that a diagnostic shows at the top of its report. -/
def Entry.echo : Entry → String
  | .instruction _ _ => ""
  | .report d => Markup.escape (" ".intercalate d.words)

/-- Entries that differ in nothing but the words that a diagnostic shows, on every line of a listing. -/
structure Entry.Alike (e e' : Entry) : Prop where
  wordless : e.wordless = e'.wordless
  render : ∀ n, ∃ below, e.render n = e.echo ++ below ∧ e'.render n = e'.echo ++ below

theorem Entry.alike_instruction (keycodes text : String) :
    (Entry.instruction keycodes text).Alike (.instruction keycodes text) :=
  ⟨rfl, fun _ => ⟨_, String.empty_append.symm, String.empty_append.symm⟩⟩

/-- A report without the words at its top. -/
def reportBelow (n : Nat) (d : Diagnostic) : String :=
  "\n" ++ String.join ((d.words.take d.used).map fun word => Text.blank word ++ " ")
    ++ Markup.error ("⮤ Error in line " ++ lineNumber n ++ " ") ++ "\n" ++ d.markup ++ "\n"

theorem Entry.render_report (n : Nat) (d : Diagnostic) :
    (Entry.report d).render n = (Entry.report d).echo ++ reportBelow n d := by
  simp only [Entry.render, reportText, Entry.echo, reportBelow, String.append_assoc]

/-- The report below the words depends on the words up to the failure only. -/
theorem Entry.alike_report {d : Diagnostic} {words : List String}
    (h : words.take d.used = d.words.take d.used) :
    (Entry.report d).Alike (.report { d with words := words }) := by
  refine ⟨rfl, fun n => ⟨reportBelow n d, Entry.render_report n d, ?_⟩⟩
  rw [Entry.render_report]
  simp only [reportBelow, h]
  rfl

theorem eq_of_alike {es es' : List Entry} (h : List.Forall₂ Entry.Alike es es')
    (hn : ∀ d, Entry.report d ∉ es) : es = es' := by
  induction h with
  | nil => rfl
  | @cons e e' es es' ha _ ih =>
    have he : e = e' := by
      have hw := ha.wordless
      cases e with
      | report d => exact absurd (by simp) (hn d)
      | instruction keycodes text =>
        cases e' with
        | report d => simp [Entry.wordless] at hw
        | instruction keycodes' text' => exact hw
    rw [he, ih fun d hd => hn d (by simp [hd])]

theorem withRemarks_eq {conv : Converter} {rest : List String}
    (h : (conv.options.onePerLine && !rest.isEmpty) = false) (records : List Record) :
    conv.withRemarks rest records = records := by
  fun_induction Converter.withRemarks conv rest records with
  | case1 => rfl
  | case2 record => simp [h]
  | case3 record records _ ih => rw [ih]

section NoFault

variable (options : Options)

/-- The HP-15C has a decimal point key, so every keycode can be shown, in both ways to read lines alike. -/
theorem exists_showKeycode (keycode : String) :
    ∃ shown, ∀ one,
      showKeycode { options with onePerLine := one } Table.standard keycode = .ok shown := by
  obtain ⟨point, hpoint⟩ : ∃ point, Table.standard.root.child? "." = some point := by
    rw [show Table.standard.root = standardRoot from rfl, standardRoot, Node.child_branch]
    exact ⟨_, rfl⟩
  simp only [showKeycode, hpoint]
  split_ifs
  · exact ⟨_, fun _ => rfl⟩
  · exact ⟨_, fun _ => rfl⟩

theorem exists_showKeycodes (keycodes : List String) :
    ∃ shown, ∀ one,
      showKeycodes { options with onePerLine := one } Table.standard keycodes = .ok shown := by
  induction keycodes with
  | nil => exact ⟨[], fun _ => rfl⟩
  | cons keycode keycodes ih =>
    obtain ⟨shown, hs⟩ := exists_showKeycode options keycode
    obtain ⟨others, ho⟩ := ih
    exact ⟨shown :: others, fun one => by simp only [showKeycodes, hs, ho]⟩

theorem exists_ofRecords (records : List Record) :
    ∃ es, List.Forall₂ Entry.Alike es es ∧ ∀ one,
      Entry.ofRecords { options with onePerLine := one } Table.standard records = .ok es := by
  induction records with
  | nil => exact ⟨[], .nil, fun _ => rfl⟩
  | cons record records ih =>
    obtain ⟨shown, hs⟩ := exists_showKeycodes options record.keycodes
    obtain ⟨es, ha, he⟩ := ih
    refine ⟨.instruction (" ".intercalate shown) (recordText options record) :: es,
      .cons (Entry.alike_instruction _ _) ha, fun one => ?_⟩
    simp only [Entry.ofRecords, Entry.ofRecord, hs, he]
    rfl

end NoFault

/-- What is read from the words of a statement alone. -/
def Piece.alone (piece : Piece) : Resolution :=
  piece.resolution.alone (Table.standard.expand (dropShift piece.words))

/-- A statement has the same entries among others on its line as on a line of its own. -/
theorem exists_entries (options : Options) (verbose : Bool) {words : List String} {piece : Piece}
    (h : Consumes Table.standard words piece.words piece.resolution) :
    ∃ es es', (standardConverter options false verbose).entries piece.resolution = .ok es ∧
      (standardConverter options true verbose).entries piece.alone = .ok es' ∧
      List.Forall₂ Entry.Alike es es' := by
  cases hd : piece.resolution.diagnostic with
  | none =>
    obtain ⟨es, ha, he⟩ := exists_ofRecords options piece.resolution.records
    refine ⟨es, es, ?_, ?_, ha⟩
    · rw [Converter.entries, hd, withRemarks_eq (by simp [standardConverter])]
      exact he false
    · rw [Converter.entries, Piece.alone, Resolution.alone, hd, withRemarks_eq (by simp)]
      exact he true
  | some d =>
    -- The words used before the failure are those of the statement in both cases.
    obtain ⟨hwords, hused⟩ := h.echo d hd
    refine ⟨[.report d], [.report { d with words := Table.standard.expand (dropShift piece.words) }],
      ?_, ?_, .cons (Entry.alike_report ?_) .nil⟩
    · rw [Converter.entries, hd]
    · rw [Converter.entries, Piece.alone, Resolution.alone, hd]
      rfl
    · rw [hwords, List.take_append_of_le_length hused]

/-- The entries that a conversion lists. -/
def Converter.listed (conv : Converter) (text : String) : Except Fault (List Entry) :=
  (gather (conv.stepsFrom 1 (lines text))).2

theorem convert_listing {conv : Converter} {text : String} {es : List Entry}
    (h : conv.listed text = .ok es) : (conv.convert text).listing = .ok (renderFrom 1 es) := by
  unfold Converter.listed at h
  simp only [Converter.convert, h]

theorem gather_ok {steps : List Step} {es : List (List Entry)}
    (h : steps.map Step.result = es.map .ok) : (gather steps).2 = .ok es.flatten := by
  induction steps generalizing es with
  | nil =>
    obtain rfl : es = [] := by simpa using h.symm
    rfl
  | cons step steps ih =>
    cases es with
    | nil => simp at h
    | cons here es =>
      obtain ⟨hhere, hrest⟩ := List.cons.inj h
      simp only [gather, hhere, ih hrest, List.flatten_cons]

/-- The steps of lines that hold several statements. -/
theorem stepsFrom_results {conv : Converter} (ho : conv.options.onePerLine = false) (line : Nat)
    {ls : List String} {pieces : List (List Piece)}
    (h : List.Forall₂ (Pieces conv.table) (ls.map words) pieces) :
    (conv.stepsFrom line ls).map Step.result =
      pieces.flatten.map fun piece => conv.entries piece.resolution := by
  induction ls generalizing line pieces with
  | nil =>
    obtain rfl := List.forall₂_nil_left_iff.mp h
    rfl
  | cons l ls ih =>
    obtain ⟨here, others, hhere, hothers, rfl⟩ := List.forall₂_cons_left_iff.mp h
    rw [Converter.stepsFrom, List.map_append, hhere.lineSteps_eq conv line ho le_rfl, ih _ hothers,
      List.map_map, List.flatten_cons, List.map_append]
    rfl

/-- The text of a statement. -/
def Piece.text (piece : Piece) : String :=
  " ".intercalate piece.words

/-- A statement of a text: its words have no blanks in them. -/
structure Piece.Written (piece : Piece) : Prop where
  isWord : ∀ word ∈ piece.words, IsWord word.toList
  consumes : ∃ words, Consumes Table.standard words piece.words piece.resolution

/-- The steps of lines that hold one statement each. -/
theorem stepsFrom_text_results {conv : Converter} (ho : conv.options.onePerLine = true)
    (ht : conv.table = Table.standard) (line : Nat) {pieces : List Piece}
    (h : ∀ piece ∈ pieces, piece.Written) :
    (conv.stepsFrom line (pieces.map Piece.text)).map Step.result =
      pieces.map fun piece => conv.entries piece.alone := by
  induction pieces generalizing line with
  | nil => rfl
  | cons piece pieces ih =>
    have hw := h piece (by simp)
    obtain ⟨_, hc⟩ := hw.consumes
    have hread : resolve conv.table piece.words = .ok piece.alone := ht ▸ hc.alone
    obtain ⟨word, others, hcons⟩ := List.exists_cons_of_ne_nil hc.ne_nil
    rw [hcons] at hread
    rw [List.map_cons, Converter.stepsFrom, Piece.text, words_intercalate hw.isWord, hcons,
      List.length_cons, List.map_append, ih _ fun p hp => h p (by simp [hp])]
    -- A line is read once, so its one step is that of the statement.
    simp only [Converter.lineSteps, hread, ho, if_true]
    rfl

theorem Pieces.consumes {table : Table} {words : List String} {pieces : List Piece}
    (h : Pieces table words pieces) {piece : Piece} (hp : piece ∈ pieces) :
    ∃ words, Consumes table words piece.words piece.resolution := by
  induction h with
  | nil => simp at hp
  | cons hc _ ih =>
    rcases List.mem_cons.mp hp with rfl | hp
    · exact ⟨_, hc⟩
    · exact ih hp

theorem exists_line_pieces (ls : List (List String)) :
    ∃ pieces, List.Forall₂ (Pieces Table.standard) ls pieces := by
  induction ls with
  | nil => exact ⟨[], .nil⟩
  | cons l ls ih =>
    obtain ⟨here, hh⟩ := exists_pieces l
    obtain ⟨others, ho⟩ := ih
    exact ⟨here :: others, .cons hh ho⟩

theorem written_of_lines {ls : List String} {pieces : List (List Piece)}
    (h : List.Forall₂ (Pieces Table.standard) (ls.map words) pieces) :
    ∀ piece ∈ pieces.flatten, piece.Written := by
  induction ls generalizing pieces with
  | nil =>
    obtain rfl := List.forall₂_nil_left_iff.mp h
    simp
  | cons l ls ih =>
    obtain ⟨here, others, hhere, hothers, rfl⟩ := List.forall₂_cons_left_iff.mp h
    intro piece hp
    rw [List.flatten_cons, List.mem_append] at hp
    rcases hp with hp | hp
    · -- The words of a statement are words of its line.
      refine ⟨fun word hword => ?_, hhere.consumes hp⟩
      have hmem : word ∈ (here.map Piece.words).flatten :=
        List.mem_flatten.mpr ⟨piece.words, List.mem_map_of_mem hp, hword⟩
      rw [hhere.flatten] at hmem
      exact isWord_of_mem_words hmem
    · exact ih hothers piece hp

theorem Piece.Written.isLine {piece : Piece} (h : piece.Written) : IsLine piece.text.toList := by
  obtain ⟨_, hc⟩ := h.consumes
  rw [Piece.text, String.toList_intercalate]
  exact isLine_intercalate (by simpa using hc.ne_nil) (by simpa using h.isWord)

theorem exists_all_entries (options : Options) (verbose : Bool) {pieces : List Piece}
    (h : ∀ piece ∈ pieces, piece.Written) :
    ∃ es es' : List (List Entry),
      pieces.map (fun p => (standardConverter options false verbose).entries p.resolution) =
        es.map .ok ∧
      pieces.map (fun p => (standardConverter options true verbose).entries p.alone) =
        es'.map .ok ∧
      List.Forall₂ (List.Forall₂ Entry.Alike) es es' := by
  induction pieces with
  | nil => exact ⟨[], [], rfl, rfl, .nil⟩
  | cons piece pieces ih =>
    obtain ⟨_, hc⟩ := (h piece (by simp)).consumes
    obtain ⟨here, here', hh, hh', hhere⟩ := exists_entries options verbose hc
    obtain ⟨es, es', he, he', hall⟩ := ih fun p hp => h p (by simp [hp])
    exact ⟨here :: es, here' :: es', by simp [hh, he], by simp [hh', he'], .cons hhere hall⟩

/-- The text with each statement on a line of its own. -/
def separated (pieces : List Piece) : String :=
  "\n".intercalate (pieces.map Piece.text)

/-- On the HP-15C a statement is read in the same way without the words behind it. Hence a text has the same
entries as the text with each of its statements on a line of its own, when such lines are read as one
statement: only the words that diagnostics show can differ, and without diagnostics nothing does. -/
theorem standard_statements_local :
    (∀ (word : String) (others : List String), ∃ r piece r',
      resolve Table.standard (word :: others) = .ok r ∧ word :: others = piece ++ r.rest ∧
      resolve Table.standard piece = .ok r' ∧ r'.rest = [] ∧ r'.records = r.records ∧
      r'.diagnostic.map Diagnostic.wordless = r.diagnostic.map Diagnostic.wordless) ∧
    ∀ (options : Options) (verbose : Bool) (text : String),
      let shared := standardConverter options false verbose
      let single := standardConverter options true verbose
      ∃ pieces es es', List.Forall₂ (Pieces Table.standard) ((lines text).map words) pieces ∧
        shared.listed text = .ok es ∧ single.listed (separated pieces.flatten) = .ok es' ∧
        (shared.convert text).listing = .ok (renderFrom 1 es) ∧
        (single.convert (separated pieces.flatten)).listing = .ok (renderFrom 1 es') ∧
        List.Forall₂ Entry.Alike es es' ∧
        ((∀ d, Entry.report d ∉ es) → (shared.convert text).listing =
          (single.convert (separated pieces.flatten)).listing) := by
  constructor
  · intro word others
    obtain ⟨piece, r, hc⟩ := exists_consumes word others
    exact ⟨r, piece, _, hc.read, hc.split, hc.alone, rfl, rfl, r.alone_wordless _⟩
  · intro options verbose text shared single
    obtain ⟨pieces, hp⟩ := exists_line_pieces ((lines text).map words)
    have hw := written_of_lines hp
    obtain ⟨es, es', he, he', ha⟩ := exists_all_entries options verbose hw
    have hall : List.Forall₂ Entry.Alike es.flatten es'.flatten := List.rel_flatten ha
    have hshared : shared.listed text = .ok es.flatten :=
      gather_ok ((stepsFrom_results rfl 1 hp).trans he)
    have hlines : lines (separated pieces.flatten) = pieces.flatten.map Piece.text := by
      refine lines_intercalate fun l hl => ?_
      obtain ⟨piece, hpiece, rfl⟩ := List.mem_map.mp hl
      exact (hw piece hpiece).isLine
    have hsingle : single.listed (separated pieces.flatten) = .ok es'.flatten := by
      rw [Converter.listed, hlines]
      exact gather_ok ((stepsFrom_text_results rfl rfl 1 hw).trans he')
    refine ⟨pieces, es.flatten, es'.flatten, hp, hshared, hsingle, convert_listing hshared,
      convert_listing hsingle, hall, fun hn => ?_⟩
    rw [convert_listing hshared, convert_listing hsingle, eq_of_alike hall hn]

end Keystroke.Listing
