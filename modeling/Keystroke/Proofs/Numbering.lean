import Keystroke.Proofs.Entries
import Keystroke.Proofs.Execution
import Keystroke.Proofs.Markup

/-! Line numbers. The number is the only part of an entry that depends on what comes before it, so the listing
of a text below another one is its own listing with all numbers moved up. -/
namespace Keystroke.Listing

open Keystroke.Command Keystroke.Statement Keystroke.Text

/-- The text of an entry in front of its line number. -/
def Entry.before : Entry → String
  | .instruction _ _ => ""
  | .report d =>
    Markup.escape (" ".intercalate d.words) ++ "\n"
      ++ String.join ((d.words.take d.used).map fun word => Text.blank word ++ " ")
      ++ "<span class=\"MCerror\">⮤ Error in line "

/-- The text of an entry behind its line number. -/
def Entry.after : Entry → String
  | .instruction keycodes text => " \x7b " ++ alignRight keycodes ++ " \x7d " ++ text ++ "\n"
  | .report d => " </span>\n" ++ d.markup ++ "\n"

/-- Entries under the given line numbers. -/
def numbered (numbers : List Nat) (es : List Entry) : String :=
  String.join (List.zipWith (fun n e => e.before ++ lineNumber n ++ e.after) numbers es)

theorem banner_eq (n : Nat) : Markup.error ("⮤ Error in line " ++ lineNumber n ++ " ") =
    "<span class=\"MCerror\">⮤ Error in line " ++ lineNumber n ++ " </span>" := by
  have hopen : "<span class=\"" ++ "MCerror" ++ "\">" ++ "⮤ Error in line " =
      "<span class=\"MCerror\">⮤ Error in line " := rfl
  have hclose : " " ++ "</span>" = " </span>" := rfl
  rw [Markup.error, Markup.span_eq, ← hopen, ← hclose]
  simp only [String.append_assoc]

theorem Entry.render_eq (n : Nat) (e : Entry) : e.render n = e.before ++ lineNumber n ++ e.after := by
  cases e with
  | instruction keycodes text =>
    simp only [Entry.render, Entry.before, Entry.after, String.empty_append, String.append_assoc]
  | report d =>
    have hclose : " </span>\n" = " </span>" ++ "\n" := rfl
    rw [Entry.render, reportText, banner_eq]
    simp only [Entry.before, Entry.after, hclose, String.append_assoc]

theorem renderFrom_eq_numbered (n : Nat) (es : List Entry) :
    renderFrom n es = numbered (List.range' n es.length) es := by
  induction es generalizing n with
  | nil => rfl
  | cons e es ih =>
    rw [renderFrom, ih, Entry.render_eq, List.length_cons, List.range'_succ]
    simp only [numbered, List.zipWith_cons_cons, String.join_cons]

theorem renderFrom_append (n : Nat) (es es' : List Entry) :
    renderFrom n (es ++ es') = renderFrom n es ++ renderFrom (n + es.length) es' := by
  induction es generalizing n with
  | nil => simp [renderFrom]
  | cons e es ih =>
    rw [List.cons_append, renderFrom, ih, renderFrom, List.length_cons, String.append_assoc]
    congr 3
    omega

theorem renderFrom_shift (k : Nat) (es : List Entry) :
    renderFrom (1 + k) es = numbered ((List.range' 1 es.length).map (· + k)) es := by
  rw [renderFrom_eq_numbered]
  congr 1
  rw [List.range'_eq_map_range, List.range'_eq_map_range, List.map_map]
  apply List.map_congr_left
  intro i _
  simp only [Function.comp_apply]
  omega

theorem convert_listing_eq (conv : Converter) (text : String) :
    (conv.convert text).listing =
      (conv.listed text).map fun es => numbered (List.range' 1 es.length) es := by
  simp only [← renderFrom_eq_numbered]
  cases h : conv.listed text with
  | ok es => exact convert_listing h
  | error fault =>
    unfold Converter.listed at h
    simp only [Converter.convert, h]
    rfl

/-- The entries of a text below another one. -/
theorem listed_joined (conv : Converter) {a b : String} (ha : '\r' ∉ a.toList) (hb : '\r' ∉ b.toList) :
    conv.listed (a ++ "\n" ++ b) =
      (conv.listed a).bind fun es => (conv.listed b).map (es ++ ·) := by
  rw [listed_eq_outcome, listed_eq_outcome, listed_eq_outcome, ← outcome_append,
    ← outcome_nonblank, nonblank_wordLines_joined ha hb, outcome_nonblank]

/-- What a statement adds to a listing. Every instruction, every key of a numeral and every diagnostic is one
entry, and a statement from which nothing is read has none. -/
inductive Counted (table : Table) : Listed → Prop
  | nothing : Counted table ⟨{}, []⟩
  | instruction (record : Record) (rest : List String) (keycodes text : String) :
    Counted table ⟨{ records := [record], rest := rest }, [.instruction keycodes text]⟩
  | numeral {word : String} {n : Numeral} {es : List Entry} (rest : List String) :
    Numeral.ofWord? word = some n → es.length = n.tokens.length →
    (∀ e ∈ es, ∃ keycodes text, e = .instruction keycodes text) →
    Counted table ⟨{ records := n.keys table, rest := rest }, es⟩
  | diagnostic (d : Diagnostic) (rest : List String) :
    Counted table ⟨{ rest := rest, diagnostic := some d }, [.report d]⟩

theorem literal_keys {table : Table} {word : String} {records : List Record}
    (h : literal table word = .ok records) (hne : records ≠ []) :
    ∃ text n, Numeral.ofWord? text = some n ∧ records = n.keys table := by
  unfold literal at h
  dsimp only at h
  split at h
  · simp at h
  · rename_i text _
    split at h
    · rename_i n hn
      exact ⟨text, n, hn, by simpa using h.symm⟩
    · exact absurd (by simpa using h.symm) hne

theorem instructions_of_shows {options : Options} {table : Table} {rest : List String}
    {records : List Record} {es : List Entry}
    (h : List.Forall₂ (Shows options table rest) records es) :
    ∀ e ∈ es, ∃ keycodes text, e = .instruction keycodes text := by
  intro e he
  obtain ⟨record, -, codes, remarked, -, -, rfl⟩ := exists_of_forall₂ h e he
  exact ⟨_, _, rfl⟩

theorem counted_of_diagnostic {table : Table} {words rest : List String} {groups : List Group}
    {r : Resolution} {d : Diagnostic} (ho : Outcome table words groups rest r)
    (hd : r.diagnostic = some d) : Counted table ⟨r, [.report d]⟩ := by
  cases ho with
  | command => simp at hd
  | literal => simp at hd
  | expression | unknown | missing | invalid =>
    cases hd
    exact .diagnostic _ _

theorem counted_of_records {table : Table} {words rest : List String} {groups : List Group}
    {r : Resolution} {options : Options} {es : List Entry} (ho : Outcome table words groups rest r)
    (hd : r.diagnostic = none) (hs : List.Forall₂ (Shows options table r.rest) r.records es) :
    Counted table ⟨r, es⟩ := by
  have hinst := instructions_of_shows hs
  cases ho with
  | command =>
    obtain ⟨e, rfl⟩ := List.length_eq_one_iff.mp hs.length_eq.symm
    obtain ⟨keycodes, text, rfl⟩ := hinst e (by simp)
    exact .instruction _ rest keycodes text
  | literal _ _ hl hne =>
    obtain ⟨text, n, hn, rfl⟩ := literal_keys hl hne
    have hlen : es.length = n.tokens.length := by
      rw [← hs.length_eq]
      exact List.length_map _
    exact .numeral _ hn hlen hinst
  | expression | unknown | missing | invalid => simp at hd

theorem counted_of_entries {conv : Converter} {words : List String} {r : Resolution}
    {es : List Entry} (hr : resolve conv.table words = .ok r) (he : conv.entries r = .ok es) :
    Counted conv.table ⟨r, es⟩ := by
  rcases resolve_ok_cases hr with rfl | ⟨groups, rest, -, ho⟩
  · obtain rfl : es = [] := by simpa [Converter.entries, Converter.withRemarks, Entry.ofRecords] using he.symm
    exact .nothing
  · rcases entries_ok he with ⟨d, hd, rfl⟩ | ⟨hd, hs⟩
    · exact counted_of_diagnostic ho hd
    · exact counted_of_records ho hd hs

theorem toString_isDigit (n : Nat) : ∀ c ∈ (toString n).toList, c.isDigit = true := by
  intro c hc
  rw [Nat.toString_eq_repr, Nat.repr, String.toList_ofList] at hc
  exact Nat.isDigit_of_mem_toDigits (by decide) (by decide) hc

theorem lineNumber_isDigit (n : Nat) : ∀ c ∈ (lineNumber n).toList, c.isDigit = true := by
  intro c hc
  rw [lineNumber, String.toList_append, String.toList_ofList, List.mem_append] at hc
  rcases hc with hzero | hdigit
  · rw [(List.mem_replicate.mp hzero).2]
    rfl
  · exact toString_isDigit n c hdigit

theorem lineNumber_length (n : Nat) : (lineNumber n).length = max 3 (toString n).length := by
  unfold lineNumber
  rw [String.length_append, String.length_ofList, List.length_replicate]
  omega

/-- The listing of one text below another is that of the first, followed by that of the second with all its line
numbers increased by the number of entries of the first; a fault of either ends the conversion. Every listing
has its entries numbered from 1 on, one for each instruction, each key of a numeral and each diagnostic, in three
digits or more. -/
theorem convert_numbers_lines (conv : Converter) :
    (∀ a b : String, '\r' ∉ a.toList → '\r' ∉ b.toList →
      (conv.convert (a ++ "\n" ++ b)).listing =
        (conv.listed a).bind fun es => (conv.listed b).map fun es' =>
          numbered (List.range' 1 es.length) es ++
            numbered ((List.range' 1 es'.length).map (· + es.length)) es') ∧
    (∀ text, (conv.convert text).listing =
      (conv.listed text).map fun es => numbered (List.range' 1 es.length) es) ∧
    (∀ text es, conv.listed text = .ok es → ∃ done, Execution conv (wordLines text) done [] ∧
      es = done.flatMap Listed.entries ∧ ∀ s ∈ done, Counted conv.table s) ∧
    ∀ n, ∃ zeros, lineNumber n = String.ofList (List.replicate zeros '0') ++ toString n ∧
      (lineNumber n).length = max 3 (toString n).length := by
  refine ⟨?_, convert_listing_eq conv, ?_, ?_⟩
  · intro a b ha hb
    rw [convert_listing_eq, listed_joined conv ha hb]
    cases conv.listed a with
    | error fault => rfl
    | ok es =>
      cases conv.listed b with
      | error fault => rfl
      | ok es' =>
        -- The numbers go on behind the entries of the first text.
        simp only [Except.bind, Except.map, ← renderFrom_eq_numbered, ← renderFrom_shift,
          renderFrom_append]
  · intro text es h
    rw [listed_eq_outcome, outcome_ok_iff] at h
    obtain ⟨done, hex, rfl⟩ := h
    refine ⟨done, hex, rfl, ?_⟩
    intro s hs
    obtain ⟨words, hr, he⟩ := hex.exists_words s hs
    exact counted_of_entries hr he
  · intro n
    exact ⟨_, rfl, lineNumber_length n⟩

/-- A converter for the command set with a single path. -/
def jumpConverter : Converter where
  table := jumpTable

set_option maxRecDepth 20000 in
theorem convert_numbers_lines_jump :
    '\r' ∉ "go to a".toList ∧ '\r' ∉ "\n b\n12".toList ∧
    (jumpConverter.convert ("go to a" ++ "\n" ++ "\n b\n12")).listing = .ok
      ("001 \x7b    42 22 11 \x7d f GTO A jump\n"
        ++ "b\n<span class=\"MCerror\">⮤ Error in line 002 </span>\n"
        ++ "The command <span class=\"MCcommand\">B</span> is unknown.\nValid commands are:\n"
        ++ "<span class=\"MCargument\">f</span>, <span class=\"MCargument\">GTO (jump)</span>\n\n"
        ++ "003 \x7b             \x7d 1\n004 \x7b             \x7d 2\n") := by
  have ha : '\r' ∉ "go to a".toList := by decide
  have hb : '\r' ∉ "\n b\n12".toList := by decide
  refine ⟨ha, hb, ?_⟩
  rw [(convert_numbers_lines jumpConverter).1 _ _ ha hb]
  rfl

end Keystroke.Listing
