import Keystroke.Proofs.Literals

/-! What a diagnostic says of the statement it is made for. Its kind follows from how far the descent came: whether it
took a word at all, whether it left one, and how many tokens it has read. Only if it took none does the first word
itself count, which may be an expression that can not be worked out. For every statement that is not read exactly one
kind applies, and the words that are skipped are those that the kind accounts for. -/
namespace Keystroke.Statement

open Keystroke.Command Keystroke.Text

/-- A word in which an expression stands between `$(` and `)`. It is not empty and has no line feed. -/
structure Encloses (word expression : String) : Prop where
  word_eq : word = expressionWord expression
  ne_empty : expression ≠ ""
  one_line : '\n' ∉ expression.toList

theorem expression_eq_some_iff (word expression : String) :
    expression? word = some expression ↔ Encloses word expression := by
  constructor
  · intro h
    unfold expression? at h
    split at h
    · rename_i rest hword
      dsimp only at h
      split_ifs at h with hform
      obtain rfl := Option.some.inj h
      simp only [Bool.and_eq_true, beq_iff_eq, Bool.not_eq_true', List.isEmpty_eq_false_iff,
        List.contains_eq_mem, decide_eq_false_iff_not] at hform
      obtain ⟨⟨hlast, hne⟩, hline⟩ := hform
      have hrest : rest.dropLast ++ [')'] = rest := List.dropLast_append_getLast? ')' hlast
      refine ⟨?_, ?_, ?_⟩
      · apply String.toList_injective
        rw [hword, expressionWord, String.toList_append, String.toList_append, String.toList_ofList]
        simp [hrest]
      · simpa using hne
      · simpa using hline
    · simp at h
  · rintro ⟨rfl, hne, hline⟩
    exact expression_expressionWord hne hline

/-- A word with an expression that can not be worked out. -/
def Fails (word : String) : Prop :=
  ∃ expression failure, Encloses word expression ∧ Constant.evaluate expression = .error failure

/-- A word that is a numeral, or an expression that yields one. -/
def YieldsNumeral (word : String) : Prop :=
  (∃ n, Numeral.ofWord? word = some n) ∨
    ∃ expression text n, Encloses word expression ∧ Constant.evaluate expression = .ok text ∧
      Numeral.ofWord? text = some n

/-- Keys are pressed for a numeral and for nothing else. -/
theorem keys_eq_nil_iff (table : Table) (text : String) :
    ((Numeral.ofWord? text).map (Numeral.keys table)).getD [] = [] ↔ ∀ n, Numeral.ofWord? text ≠ some n := by
  cases h : Numeral.ofWord? text with
  | none => simp
  | some n => simpa using keys_ne_nil h table

theorem not_encloses_of_numeral {word expression : String} {n : Numeral} (h : Numeral.ofWord? word = some n) :
    ¬ Encloses word expression := by
  intro he
  have hdollar : '$' ∈ word.toList := by simp [he.word_eq, expressionWord]
  exact absurd (Numeral.ofWord_word_chars h '$' hdollar) (by decide)

theorem literal_error_iff (table : Table) (word : String) :
    (∃ failure, literal table word = .error failure) ↔ Fails word := by
  cases hx : expression? word with
  | none =>
    rw [literal_of_not_expression table hx]
    simp only [reduceCtorEq, exists_false, false_iff]
    rintro ⟨expression, failure, he, -⟩
    rw [← expression_eq_some_iff, hx] at he
    simp at he
  | some expression =>
    have he := (expression_eq_some_iff word expression).mp hx
    rw [literal_of_expression hx table]
    constructor
    · rintro ⟨failure, hf⟩
      cases hv : Constant.evaluate expression with
      | error reason => exact ⟨expression, reason, he, hv⟩
      | ok text => simp [hv, Except.map] at hf
    · rintro ⟨other, failure, ho, hf⟩
      rw [← expression_eq_some_iff, hx] at ho
      obtain rfl := Option.some.inj ho
      exact ⟨failure, by rw [hf]; rfl⟩

theorem literal_nil_iff (table : Table) (word : String) :
    literal table word = .ok [] ↔ ¬ Fails word ∧ ¬ YieldsNumeral word := by
  rw [← literal_error_iff table]
  cases hx : expression? word with
  | none =>
    have hnone (expression : String) : ¬ Encloses word expression := by
      rw [← expression_eq_some_iff, hx]
      simp
    rw [literal_of_not_expression table hx, Except.ok.injEq, keys_eq_nil_iff]
    simp [YieldsNumeral, hnone]
  | some expression =>
    have he := (expression_eq_some_iff word expression).mp hx
    have honly (other : String) : Encloses word other ↔ expression = other := by
      rw [← expression_eq_some_iff, hx, Option.some.injEq]
    have hword (n : Numeral) : Numeral.ofWord? word ≠ some n := fun hn => not_encloses_of_numeral hn he
    rw [literal_of_expression hx table]
    cases hv : Constant.evaluate expression with
    | error failure => simp [Except.map]
    | ok text =>
      have hyields : YieldsNumeral word ↔ ∃ n, Numeral.ofWord? text = some n := by
        simp [YieldsNumeral, hword, honly, hv]
      simp [Except.map, keys_eq_nil_iff, hyields]

/-- When a diagnostic of a kind is made: by the words and tokens that the descent has read, and by the first word if it
has read none. An expression that can not be worked out is not an unknown command. -/
def Kind.Applies (statement : List String) (d : Descent) : Kind → Prop
  | .expressionInvalid => d.used = 0 ∧ ∃ word ∈ statement.head?, Fails word
  | .commandUnknown => d.used = 0 ∧ ∃ word ∈ statement.head?, ¬ Fails word ∧ ¬ YieldsNumeral word
  | .noArgument => d.used = statement.length ∧ d.path.length = 1
  | .argumentMissing => d.used = statement.length ∧ 1 < d.path.length
  | .argumentInvalid => 0 < d.used ∧ d.used < statement.length
  | .unlisted _ => False

/-- What a diagnostic says and what is left, by the descent from the root. -/
structure Diagnosed (table : Table) (statement : List String) (d : Descent) (r : Resolution)
    (diagnostic : Diagnostic) : Prop where
  /-- No group of words goes on from where the descent ended. -/
  stuck : Stuck table d.node (statement.drop d.used)
  kind : ∀ kind, diagnostic.kind = kind ↔ kind.Applies statement d
  token : diagnostic.kind = .argumentInvalid →
    ∃ word, statement[d.used]? = some word ∧ diagnostic.token = fold word
  place : diagnostic.kind ≠ .expressionInvalid → diagnostic.path = d.path ∧ diagnostic.used = d.used ∧
    diagnostic.alternatives = d.node.args.map fun arg => ⟨arg.1, arg.2.comment⟩
  rest : r.rest = statement.drop (max d.used 1 + if diagnostic.kind = .argumentInvalid then 1 else 0)
  records : r.records = []

/-- Every token takes at least one word. -/
theorem Spells.length_le {table : Table} {node : Node} {groups : List Group} (h : Spells table node groups) :
    groups.length ≤ (flatWords groups).length := by
  induction h with
  | nil => simp
  | cons hsel _ ih =>
    have hl := hsel.length
    rw [flatWords_cons, List.length_append, List.length_cons]
    omega

/-- How far a descent came: the groups that it read and the words that it left. -/
structure Descent.Came (d : Descent) (table : Table) (statement : List String) (groups : List Group)
    (rest : List String) : Prop where
  node : d.node = lastNode table.root groups
  path : d.path = groups.map Group.token
  used : d.used = (flatWords groups).length
  drop : statement.drop d.used = rest
  length : statement.length = d.used + rest.length
  count : d.path.length ≤ d.used

theorem Walk.came {table : Table} {statement rest : List String} {groups : List Group}
    (hw : Walk table table.root statement groups rest) :
    (descend table table.root statement).Came table statement groups rest := by
  have hd := hw.descend_eq
  have hpath : (descend table table.root statement).path = groups.map Group.token := by
    rw [hd, Descent.after_path, List.append_nil]
  have hused : (descend table table.root statement).used = (flatWords groups).length := by
    rw [hd, Descent.after_used, Nat.add_zero]
  refine ⟨?_, hpath, hused, ?_, ?_, ?_⟩
  · rw [hd, Descent.after_node]
  · rw [hused, hw.split, List.drop_left]
  · rw [hused, hw.split, List.length_append]
  · rw [hpath, hused, List.length_map]
    exact hw.spells.length_le

/-- No two kinds apply. -/
theorem Kind.Applies.unique {statement : List String} {d : Descent} {kind kind' : Kind}
    (hcount : d.path.length ≤ d.used) (h : kind.Applies statement d) (h' : kind'.Applies statement d) :
    kind = kind' := by
  classical
  -- Both are the kind that the same distinctions lead to.
  have hkind (kind : Kind) (h : kind.Applies statement d) : kind =
      if d.used = 0 then
        if ∃ word ∈ statement.head?, Fails word then .expressionInvalid else .commandUnknown
      else if d.used = statement.length then
        if d.path.length = 1 then .noArgument else .argumentMissing
      else .argumentInvalid := by
    cases kind with
    | expressionInvalid => rw [if_pos h.1, if_pos h.2]
    | commandUnknown =>
      obtain ⟨hused, word, hw, hnot, -⟩ := h
      rw [if_pos hused, if_neg]
      rintro ⟨other, ho, hf⟩
      obtain rfl := Option.mem_unique hw ho
      exact hnot hf
    | noArgument =>
      obtain ⟨hall, hone⟩ := h
      rw [if_neg (by omega), if_pos hall, if_pos hone]
    | argumentMissing =>
      obtain ⟨hall, hmore⟩ := h
      rw [if_neg (by omega), if_pos hall, if_neg (by omega)]
    | argumentInvalid =>
      obtain ⟨hsome, hleft⟩ := h
      rw [if_neg (by omega), if_neg (by omega)]
    | unlisted => exact h.elim
  rw [hkind kind h, hkind kind' h']

theorem Outcome.diagnosed {table : Table} {statement rest : List String} {groups : List Group} {d : Descent}
    {r : Resolution} {diagnostic : Diagnostic} (ho : Outcome table statement groups rest r)
    (hc : d.Came table statement groups rest) (hs : Stuck table (lastNode table.root groups) rest)
    (hd : r.diagnostic = some diagnostic) : Diagnosed table statement d r diagnostic := by
  have hstuck : Stuck table d.node (statement.drop d.used) := by
    rw [hc.node, hc.drop]
    exact hs
  -- The kind of the diagnostic has to apply, since no other one can apply as well.
  have hkind {kind : Kind} (h : kind.Applies statement d) (other : Kind) : kind = other ↔ other.Applies statement d :=
    ⟨fun he => he ▸ h, fun ho => h.unique hc.count ho⟩
  have hlength := hc.length
  have hdrop := hc.drop
  have hcount := hc.count
  cases ho with
  | command | literal => simp at hd
  | @expression word others failure hg hr hl =>
    obtain rfl := Option.some.inj hd
    subst hg hr
    have hused : d.used = 0 := hc.used
    have hstatement : statement = word :: others := by simpa [hused] using hdrop
    have hfails : Fails word := (literal_error_iff table word).mp ⟨failure, hl⟩
    exact ⟨hstuck, hkind ⟨hused, word, by simp [hstatement], hfails⟩, by simp, by simp,
      by simp [hused, hstatement], rfl⟩
  | @unknown word others hg hr hl =>
    obtain rfl := Option.some.inj hd
    subst hg hr
    have hused : d.used = 0 := hc.used
    have hstatement : statement = word :: others := by simpa [hused] using hdrop
    have hneither := (literal_nil_iff table word).mp hl
    exact ⟨hstuck, hkind ⟨hused, word, by simp [hstatement], hneither⟩, by simp,
      fun _ => ⟨hc.path.symm, hused.symm, by rw [hc.node]; rfl⟩, by simp [hused, hstatement], rfl⟩
  | missing hg hcomplete hr =>
    obtain rfl := Option.some.inj hd
    subst hr
    have hall : d.used = statement.length := by simpa using hlength.symm
    have hpath : d.path.length = groups.length := by simp [hc.path]
    have hpos := List.length_pos_of_ne_nil hg
    have happlies : Kind.Applies statement d (if groups.length = 1 then .noArgument else .argumentMissing) := by
      split_ifs with hone
      · exact ⟨hall, by omega⟩
      · exact ⟨hall, by omega⟩
    refine ⟨hstuck, hkind happlies, ?_, fun _ => ⟨hc.path.symm, hall.symm, by rw [hc.node]; rfl⟩, ?_, rfl⟩
    · dsimp only
      split_ifs <;> simp
    · symm
      rw [List.drop_eq_nil_iff]
      omega
  | @invalid word others hg hcomplete hr =>
    obtain rfl := Option.some.inj hd
    subst hr
    have hpath : d.path.length = groups.length := by simp [hc.path]
    have hpos := List.length_pos_of_ne_nil hg
    have hleft : d.used < statement.length := by simp [hlength]
    have hword : statement[d.used]? = some word := by
      rw [← List.head?_drop, hdrop, List.head?_cons]
    refine ⟨hstuck, hkind ⟨by omega, hleft⟩, fun _ => ⟨word, hword, rfl⟩,
      fun _ => ⟨hc.path.symm, hc.used.symm, by rw [hc.node]; rfl⟩, ?_, rfl⟩
    have hskip : max d.used 1 + 1 = d.used + 1 := by omega
    simp only [if_true]
    rw [hskip, ← List.drop_drop, hdrop]
    rfl

/-- Every diagnostic says of its statement what the descent found, and the words after those that it accounts for are
left. -/
theorem diagnostics_are_exact (table : Table) (words : List String) (r : Resolution) (diagnostic : Diagnostic)
    (h : resolve table words = .ok r) (hd : r.diagnostic = some diagnostic) :
    Diagnosed table (table.expand (dropShift words))
      (descend table table.root (table.expand (dropShift words))) r diagnostic := by
  rcases resolve_ok_cases h with rfl | ⟨groups, rest, hw, ho⟩
  · simp at hd
  · exact ho.diagnosed hw.came hw.stuck hd

/-- A word that is no argument of the jump, and one behind it. -/
def strayResolution : Resolution where
  rest := ["now"]
  diagnostic := some
    { kind := .argumentInvalid, token := "B", path := ["GTO"], words := ["go", "TO", "b", "now"], used := 2
      alternatives := [⟨"A", ""⟩] }

set_option maxRecDepth 20000 in
theorem diagnostics_are_exact_jump :
    resolve jumpTable ["g", "go", "TO", "b", "now"] = .ok strayResolution ∧
    ∃ diagnostic, strayResolution.diagnostic = some diagnostic ∧
      Diagnosed jumpTable ["go", "TO", "b", "now"]
        (descend jumpTable jumpTable.root ["go", "TO", "b", "now"]) strayResolution diagnostic := by
  have h : resolve jumpTable ["g", "go", "TO", "b", "now"] = .ok strayResolution := rfl
  exact ⟨h, _, rfl, diagnostics_are_exact jumpTable _ _ _ h rfl⟩

end Keystroke.Statement
