import Keystroke.Listing.Convert
import Keystroke.Proofs.Unambiguous

/-! Reading a statement takes a piece off the front of the words. What is left are the words behind the
piece, unchanged, and without them the piece is read in the same way. On the HP-15C this holds of shortcuts
too, since every phrase that one stands for is taken as a whole. -/
namespace Keystroke.Statement

open Keystroke.Command Keystroke.Text
attribute [local irreducible] fold suggestions

/-- What was read, without the words after it; a diagnostic shows the given words. -/
def Resolution.alone (r : Resolution) (words : List String) : Resolution where
  records := r.records
  diagnostic := r.diagnostic.map fun d => { d with words := words }

/-- A piece off the front of the words of a statement, which is read in the same way alone. -/
structure Taken (table : Table) (words taken : List String) (r : Resolution) : Prop where
  split : words = taken ++ r.rest
  ne_nil : taken ≠ []
  alone : resolveWords table taken = .ok (r.alone taken)
  echo : ∀ d, r.diagnostic = some d → d.words = words ∧ d.used ≤ taken.length

/-- A statement that no command begins is read from its first word. -/
theorem Walk.taken_word {table : Table} {words others : List String} {word : String} {r : Resolution}
    (hw : Walk table table.root words [] (word :: others)) (hrest : r.rest = others)
    (ho : Outcome table [word] [] [word] (r.alone [word]))
    (he : ∀ d, r.diagnostic = some d → d.words = words ∧ d.used = 0) :
    Taken table words [word] r := by
  have hone : Walk table table.root [word] [] [word] := hw.of_front (by simp)
  refine ⟨by rw [hrest]; exact hw.words_eq_rest, by simp, hone.resolveWords_eq ho, ?_⟩
  intro d hd
  obtain ⟨hwords, hused⟩ := he d hd
  exact ⟨hwords, by omega⟩

/-- The piece has at least the words of the walk. -/
theorem Walk.exists_taken {table : Table} {words rest : List String} {groups : List Group}
    {r : Resolution} (hw : Walk table table.root words groups rest)
    (ho : Outcome table words groups rest r) :
    ∃ taken, Taken table words taken r ∧ flatWords groups <+: taken := by
  have hsplit := hw.split
  -- What is left of the rest is a front of it, on which the walk is the same.
  cases ho with
  | command hg hc =>
    have hflat : Walk table table.root (flatWords groups) groups [] := by
      simpa using hw.of_front List.nil_prefix
    exact ⟨flatWords groups, ⟨hsplit, hw.spells.flatWords_ne_nil hg,
      hflat.resolveWords_eq (.command hg hc), by simp⟩, List.prefix_rfl⟩
  | @literal word others records hg hr hl hne =>
    subst hg hr
    exact ⟨[word], hw.taken_word rfl (.literal rfl rfl hl hne) (by simp), by simp⟩
  | @expression word others failure hg hr hl =>
    subst hg hr
    refine ⟨[word], hw.taken_word rfl (.expression rfl rfl hl) ?_, by simp⟩
    rintro d ⟨⟩
    exact ⟨rfl, rfl⟩
  | @unknown word others hg hr hl =>
    subst hg hr
    refine ⟨[word], hw.taken_word rfl (.unknown rfl rfl hl) ?_, by simp⟩
    rintro d ⟨⟩
    exact ⟨rfl, rfl⟩
  | missing hg hc hr =>
    subst hr
    rw [List.append_nil] at hsplit
    subst hsplit
    refine ⟨flatWords groups, ⟨by simp, hw.spells.flatWords_ne_nil hg,
      hw.resolveWords_eq (.missing hg hc rfl), ?_⟩, List.prefix_rfl⟩
    rintro d ⟨⟩
    exact ⟨rfl, Nat.le_refl _⟩
  | @invalid word others hg hc hr =>
    subst hr
    have hone : Walk table table.root (flatWords groups ++ [word]) groups [word] :=
      hw.of_front (by simp)
    have ho : Outcome table (flatWords groups ++ [word]) groups [word] _ := .invalid hg hc rfl
    refine ⟨flatWords groups ++ [word], ⟨by simp [hsplit], by simp, hone.resolveWords_eq ho, ?_⟩,
      by simp⟩
    rintro d ⟨⟩
    exact ⟨rfl, by simp⟩

/-- Without a shortcut in front of the words there is none when words are cut off at the end. -/
theorem expand_none_of_front {table : Table} {words front : List String}
    (h : table.expand? words = none) (hp : front <+: words) : table.expand? front = none := by
  obtain ⟨tail, rfl⟩ := hp
  match front with
  | [] => rfl
  | [first] =>
    simp only [List.cons_append, List.nil_append, Table.expand?] at h ⊢
    cases hs : table.shortcut? (fold first) with
    | none => rfl
    | some phrase => simp [hs] at h
  | first :: second :: others =>
    simp only [List.cons_append, Table.expand?] at h ⊢
    cases hs : table.shortcut? (fold first) with
    | none => simpa [hs] using h
    | some phrase => simp [hs] at h

/-- A shortcut in front of the words is replaced, whatever comes after it. -/
theorem exists_shortcut {table : Table} {statement expanded : List String}
    (h : table.expand? statement = some expanded) :
    ∃ front tail spelling phrase, statement = front ++ tail ∧ front ≠ [] ∧
      table.shortcut? spelling = some phrase ∧ expanded = words phrase ++ tail ∧
      ∀ tail', table.expand? (front ++ tail') = some (words phrase ++ tail') := by
  match statement with
  | [] => simp [Table.expand?] at h
  | [first] =>
    cases hs : table.shortcut? (fold first) with
    | none => simp [Table.expand?, hs] at h
    | some phrase =>
      simp only [Table.expand?, hs, Option.some.injEq] at h
      exact ⟨[first], [], _, phrase, rfl, by simp, hs, h.symm, by simp [Table.expand?, hs]⟩
  | first :: second :: others =>
    cases hs : table.shortcut? (fold first) with
    | some phrase =>
      simp only [Table.expand?, hs, Option.some.injEq] at h
      exact ⟨[first], second :: others, _, phrase, rfl, by simp, hs, h.symm,
        by simp [Table.expand?, hs]⟩
    | none =>
      simp only [Table.expand?, hs, Option.map_eq_some_iff] at h
      obtain ⟨phrase, hpair, he⟩ := h
      exact ⟨[first, second], others, _, phrase, rfl, by simp, hpair, he.symm,
        by simp [Table.expand?, hs, hpair]⟩

theorem StartsWithCyx.fold_head {word : String} {others : List String}
    (h : StartsWithCyx (word :: others)) : fold word = "C" := by
  cases others with
  | nil => exact h.elim
  | cons second others => exact h.1

/-- The walk takes the whole phrase that a shortcut stands for. -/
theorem Walk.phrase_taken {spelling phrase : String} {tail rest : List String} {groups : List Group}
    (h : Table.standard.shortcut? spelling = some phrase)
    (hw : Walk Table.standard Table.standard.root (words phrase ++ tail) groups rest) :
    words phrase <+: flatWords groups := by
  obtain ⟨⟨path, hpath, hflat⟩, word, hword, hfirst⟩ := standard_phrase_spells h
  have hcyx : ¬ StartsWithCyx (flatWords path ++ tail) := by
    rw [hflat]
    obtain ⟨others, he⟩ := List.head?_eq_some_iff.mp hword
    rw [he]
    exact fun hc => hfirst hc.fold_head
  have hd := descend_of_greedy hpath (greedy_of_spells hpath hcyx)
  rw [hflat] at hd
  -- The descent has used the words of the phrase and perhaps more, and it is the walk.
  have hused := congrArg Descent.used hw.descend_eq
  rw [show Table.standard.root = standardRoot from rfl, hd, Descent.after_used, Descent.after_used,
    hflat, Nat.add_zero] at hused
  have hpre : flatWords groups <+: words phrase ++ tail := by simp [hw.split]
  exact List.prefix_of_prefix_length_le (List.prefix_append _ _) hpre (by omega)

/-- So what is taken off the front of a statement with its shortcut written out comes from a piece off the
front of the statement itself. -/
theorem exists_unexpanded {statement taken rest : List String} {groups : List Group} {r : Resolution}
    (hw : Walk Table.standard Table.standard.root (Table.standard.expand statement) groups rest)
    (ht : Taken Table.standard (Table.standard.expand statement) taken r)
    (hp : flatWords groups <+: taken) :
    ∃ piece, statement = piece ++ r.rest ∧ piece ≠ [] ∧ Table.standard.expand piece = taken := by
  have hsplit := ht.split
  cases he : Table.standard.expand? statement with
  | none =>
    simp only [Table.expand, he, Option.getD_none] at hsplit
    have hnone := expand_none_of_front he ⟨r.rest, hsplit.symm⟩
    exact ⟨taken, hsplit, ht.ne_nil, by simp [Table.expand, hnone]⟩
  | some expanded =>
    obtain ⟨front, tail, spelling, phrase, rfl, hne, hs, rfl, hall⟩ := exists_shortcut he
    simp only [Table.expand, he, Option.getD_some] at hw hsplit
    -- The phrase lies within what was taken, so only words behind the shortcut are left.
    obtain ⟨others, rfl⟩ := (hw.phrase_taken hs).trans hp
    rw [List.append_assoc, List.append_cancel_left_eq] at hsplit
    exact ⟨front ++ others, by simp [hsplit], by simp [hne], by simp [Table.expand, hall]⟩

theorem dropShift_cons (word : String) :
    (∀ tail, dropShift (word :: tail) = tail) ∨ ∀ tail, dropShift (word :: tail) = word :: tail := by
  simp only [dropShift]
  split_ifs
  · exact Or.inl fun _ => rfl
  · exact Or.inr fun _ => rfl

/-- The piece of the words that was read is not empty, and it is read in the same way alone. A diagnostic
shows the words with their shortcut written out, and has not used more than those of the piece. -/
structure Consumes (table : Table) (words piece : List String) (r : Resolution) : Prop where
  read : resolve table words = .ok r
  split : words = piece ++ r.rest
  ne_nil : piece ≠ []
  alone : resolve table piece = .ok (r.alone (table.expand (dropShift piece)))
  echo : ∀ d, r.diagnostic = some d →
    d.words = table.expand (dropShift piece) ++ r.rest ∧
    d.used ≤ (table.expand (dropShift piece)).length

theorem standard_expand_ne_nil {statement : List String} (hne : statement ≠ []) :
    Table.standard.expand statement ≠ [] := by
  cases he : Table.standard.expand? statement with
  | none => simpa [Table.expand, he] using hne
  | some expanded =>
    obtain ⟨_, tail, spelling, phrase, -, -, hs, rfl, -⟩ := exists_shortcut he
    obtain ⟨-, word, hword, -⟩ := standard_phrase_spells hs
    obtain ⟨others, hw⟩ := List.head?_eq_some_iff.mp hword
    simp [Table.expand, he, hw]

/-- A statement on the HP-15C that does not begin with a shift key. -/
theorem exists_statement_piece {statement : List String} (hne : statement ≠ []) :
    ∃ piece r, resolveWords Table.standard (Table.standard.expand statement) = .ok r ∧
      statement = piece ++ r.rest ∧ piece ≠ [] ∧
      Taken Table.standard (Table.standard.expand statement) (Table.standard.expand piece) r := by
  obtain ⟨groups, rest, hw⟩ :=
    exists_walk Table.standard Table.standard.root (Table.standard.expand statement)
  have hsome : groups ≠ [] ∨ rest ≠ [] := by
    have hexp := standard_expand_ne_nil hne
    rw [hw.split] at hexp
    by_contra hnone
    push Not at hnone
    simp [hnone.1, hnone.2] at hexp
  obtain ⟨r, ho⟩ := exists_outcome Table.standard (Table.standard.expand statement) rest groups hsome
  obtain ⟨taken, ht, hp⟩ := hw.exists_taken ho
  obtain ⟨piece, hs, hpiece, rfl⟩ := exists_unexpanded hw ht hp
  exact ⟨piece, r, hw.resolveWords_eq ho, hs, hpiece, ht⟩

theorem exists_consumes (word : String) (others : List String) :
    ∃ piece r, Consumes Table.standard (word :: others) piece r := by
  rcases dropShift_cons word with hshift | hplain
  · by_cases hne : others = []
    · -- A shift key alone is a statement from which nothing is read.
      subst hne
      have hr : resolve Table.standard [word] = .ok {} := by simp [resolve, hshift]
      exact ⟨[word], {}, hr, rfl, by simp, hr, by simp⟩
    · obtain ⟨piece, r, hr, hs, hpiece, ht⟩ := exists_statement_piece hne
      refine ⟨word :: piece, r, ?_, by simp [hs], by simp, ?_, ?_⟩
      · rw [resolve_of_statement (by simpa [hshift] using hne), hshift, hr]
      · rw [resolve_of_statement (by simpa [hshift] using hpiece), hshift, ht.alone]
      · intro d hd
        rw [hshift, ← ht.split]
        exact ht.echo d hd
  · obtain ⟨piece, r, hr, hs, hpiece, ht⟩ := exists_statement_piece (List.cons_ne_nil word others)
    have hdrop : dropShift piece = piece := by
      obtain ⟨first, tail, rfl⟩ := List.exists_cons_of_ne_nil hpiece
      obtain rfl : word = first := by simpa using (List.cons.inj hs).1
      exact hplain tail
    refine ⟨piece, r, ?_, hs, hpiece, ?_, ?_⟩
    · rw [resolve_of_statement (by simp [hplain]), hplain, hr]
    · rw [resolve_of_statement (by rwa [hdrop]), hdrop, ht.alone]
    · intro d hd
      rw [hdrop, ← ht.split]
      exact ht.echo d hd

theorem Consumes.rest_length_lt {table : Table} {words piece : List String} {r : Resolution}
    (h : Consumes table words piece r) : r.rest.length < words.length := by
  have hpos := List.length_pos_of_ne_nil h.ne_nil
  rw [h.split, List.length_append]
  omega

end Keystroke.Statement

namespace Keystroke.Listing

open Keystroke.Command Keystroke.Statement

/-- A converter for the HP-15C. -/
def standardConverter (options : Options) (onePerLine verbose : Bool) : Converter where
  options := { options with onePerLine := onePerLine }
  verbose := verbose

/-- A statement of a line: the words that it takes, and what is read from them. -/
structure Piece where
  words : List String
  resolution : Resolution

/-- A line read as one statement after the other, each from the words that the one before it left. -/
inductive Pieces (table : Table) : List String → List Piece → Prop
  | nil : Pieces table [] []
  | cons {words : List String} {piece : Piece} {pieces : List Piece} :
    Consumes table words piece.words piece.resolution → Pieces table piece.resolution.rest pieces →
    Pieces table words (piece :: pieces)

theorem Pieces.flatten {table : Table} {words : List String} {pieces : List Piece}
    (h : Pieces table words pieces) : (pieces.map Piece.words).flatten = words := by
  induction h with
  | nil => rfl
  | cons hc _ ih => rw [List.map_cons, List.flatten_cons, ih, ← hc.split]

/-- The step of a statement, which sees the words behind it too. -/
def Piece.step (conv : Converter) (line : Nat) (piece : Piece) : Step :=
  let words := piece.words ++ piece.resolution.rest
  ⟨conv.shortcutLog words ++ conv.statementLog line words piece.resolution,
    conv.entries piece.resolution⟩

theorem exists_pieces (words : List String) : ∃ pieces, Pieces Table.standard words pieces := by
  -- On the number of words, since each statement leaves fewer of them.
  induction hn : words.length using Nat.strong_induction_on generalizing words with
  | _ n ih =>
    cases words with
    | nil => exact ⟨[], .nil⟩
    | cons word others =>
      obtain ⟨piece, r, hc⟩ := exists_consumes word others
      obtain ⟨pieces, hp⟩ := ih r.rest.length (hn ▸ hc.rest_length_lt) r.rest rfl
      exact ⟨⟨piece, r⟩ :: pieces, .cons hc hp⟩

/-- The loop over a line makes the steps of its statements. Each statement takes at least one word, so the
loop neither drops a word of its own accord nor runs out of fuel. -/
theorem Pieces.lineSteps_eq {words : List String} {pieces : List Piece} {fuel : Nat}
    (conv : Converter) (line : Nat) (h : Pieces conv.table words pieces) (ho : conv.options.onePerLine = false)
    (hf : words.length ≤ fuel) :
    conv.lineSteps line fuel words = pieces.map (Piece.step conv line) := by
  induction h generalizing fuel with
  | nil => cases fuel <;> rfl
  | @cons words piece pieces hc _ ih =>
    have hlt := hc.rest_length_lt
    obtain ⟨fuel, rfl⟩ := Nat.exists_eq_add_one_of_ne_zero (show fuel ≠ 0 by omega)
    obtain ⟨word, others, rfl⟩ := List.exists_cons_of_ne_nil
      (List.ne_nil_of_length_pos (Nat.zero_lt_of_lt hlt))
    -- So the loop goes on with the rest itself.
    have hguard : ¬ (word :: others).length ≤ piece.resolution.rest.length := Nat.not_le_of_lt hlt
    have hrest : piece.resolution.rest.length ≤ fuel := by omega
    rw [List.map_cons, ← ih hrest, Piece.step, ← hc.split]
    simp only [Converter.lineSteps, hc.read, ho, if_neg hguard]
    rfl

theorem Pieces.nil_not_mem {table : Table} {words : List String} {pieces : List Piece}
    (h : Pieces table words pieces) : [] ∉ pieces.map Piece.words := by
  induction h with
  | nil => simp
  | cons hc _ ih =>
    rw [List.map_cons, List.mem_cons, not_or]
    exact ⟨hc.ne_nil.symm, ih⟩

/-- No word is lost, repeated or read again on the HP-15C. What a statement leaves is a shorter end of the
words it was read from, so the statements of a line are non-empty pieces of it, one after the other, that
make up the whole line. -/
theorem standard_words_conserved :
    (∀ (word : String) (others : List String), ∃ r,
      resolve Table.standard (word :: others) = .ok r ∧ r.rest <:+ word :: others ∧
      r.rest.length < (word :: others).length) ∧
    ∀ words : List String, ∃ pieces,
      Pieces Table.standard words pieces ∧ (pieces.map Piece.words).flatten = words ∧
      [] ∉ pieces.map Piece.words ∧ ∀ (options : Options) (verbose : Bool) (line extra : Nat),
      (standardConverter options false verbose).lineSteps line (words.length + extra) words =
        pieces.map (Piece.step (standardConverter options false verbose) line) := by
  constructor
  · intro word others
    obtain ⟨piece, r, hc⟩ := exists_consumes word others
    exact ⟨r, hc.read, ⟨piece, hc.split.symm⟩, hc.rest_length_lt⟩
  · intro words
    obtain ⟨pieces, hp⟩ := exists_pieces words
    refine ⟨pieces, hp, hp.flatten, hp.nil_not_mem, ?_⟩
    intro options verbose line extra
    exact hp.lineSteps_eq (standardConverter options false verbose) line rfl (by omega)

end Keystroke.Listing
