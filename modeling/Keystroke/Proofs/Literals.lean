import Keystroke.Proofs.FoldInvariance
import Keystroke.Proofs.Instructions
import Keystroke.Proofs.NumberText

/-! Literals on the HP-15C. Neither a numeral nor a constant expression is ever taken for something else. Both begin
with a character that no shift key and no spelling of two words begins with, so the word behind them plays no part.
Alone, an expression is no spelling at all. A numeral may be the spelling of a dotted digit, which is no command, or
of a digit, which is the command with the one key that the digit is keyed in with. -/
namespace Keystroke.Statement

open Keystroke.Command Keystroke.Text
set_option maxRecDepth 20000

/-- The characters that literals begin with, once they are folded. -/
def literalHeads : List Char :=
  '$' :: numeralChars

/-- Texts with one of these characters in front. -/
def headed (text : String) : Bool :=
  text.toList.head?.any literalHeads.contains

/-- A word whose fold begins with one of these characters. -/
def BeginsLiteral (word : String) : Prop :=
  headed (fold word) = true

/-- Shortcuts are neither numerals nor expressions, and those of two words begin like none. -/
theorem standardShortcuts_literal : (standardShortcuts.all fun a =>
    !a.spelling.toList.all numeralChars.contains && a.spelling.toList.head? != some '$' &&
      !(a.spelling.toList.contains ' ' && headed a.spelling)) = true := by
  decide

theorem shortcut_not_literal {spelling phrase : String}
    (hs : Table.standard.shortcut? spelling = some phrase) :
    ¬ (∀ c ∈ spelling.toList, c ∈ numeralChars) ∧ spelling.toList.head? ≠ some '$' ∧
      ¬ (' ' ∈ spelling.toList ∧ headed spelling = true) := by
  rw [standard_shortcut] at hs
  have hchecked := List.all_eq_true.mp standardShortcuts_literal _ (Alias.mem_of_lookup hs)
  simpa [and_assoc, imp_iff_not_or] using hchecked

/-- Spellings are no expressions. One that is a numeral has the key of the numeral, or stands for a dotted digit. -/
theorem standardAliases_literal : (standardAliases.all fun a => a.spelling.toList.head? != some '$' &&
    (!a.spelling.toList.all numeralChars.contains || (Numeral.ofWord? a.spelling).all fun n =>
      n.tokens == [a.token] || (dottedArgs.map Prod.fst).contains a.token)) = true := by
  decide +kernel

theorem dotted_no_command : ∀ token ∈ dottedArgs.map Prod.fst, standardRoot.child? token = none := by
  have hnone : ((dottedArgs.map Prod.fst).all fun token => (standardRoot.child? token).isNone) = true := by
    simp only [standardRoot, Node.child_branch]
    decide
  intro token ht
  exact Option.isNone_iff_eq_none.mp (List.all_eq_true.mp hnone token ht)

namespace BeginsLiteral

variable {word : String} (h : BeginsLiteral word)
include h

theorem not_shift : isShiftWord word = false := by
  have hf : fold Shift.f.name = "F" := by decide
  have hg : fold Shift.g.name = "G" := by decide
  unfold BeginsLiteral at h
  simp only [isShiftWord, hf, hg, Bool.or_eq_false_iff, beq_eq_false_iff_ne]
  constructor
  · intro he
    rw [he] at h
    exact absurd h (by decide)
  · intro he
    rw [he] at h
    exact absurd h (by decide)

/-- The word is in front of the fold of two words. -/
theorem pair (next : String) :
    headed (fold (word ++ " " ++ next)) = true ∧ ' ' ∈ (fold (word ++ " " ++ next)).toList := by
  obtain ⟨c, hhead, hc⟩ := (Option.any_eq_true _ _).mp h
  obtain ⟨tail, hpair, -⟩ := fold_pair_toList word next
  obtain ⟨cs, hcs⟩ := List.head?_eq_some_iff.mp hhead
  rw [headed, hpair, hcs]
  exact ⟨by simpa using hc, by simp⟩

theorem shortcut_pair (next : String) : Table.standard.shortcut? (fold (word ++ " " ++ next)) = none := by
  obtain ⟨hhead, hblank⟩ := h.pair next
  apply Option.eq_none_iff_forall_ne_some.mpr
  intro phrase hs
  exact (shortcut_not_literal hs).2.2 ⟨hblank, hhead⟩

theorem canonical_pair (next : String) : Table.standard.canonical? (fold (word ++ " " ++ next)) = none := by
  have hheads : (("C" :: pairHeads).all fun head => !headed head) = true := by decide
  unfold BeginsLiteral at h
  cases hs : Table.standard.canonical? (fold (word ++ " " ++ next)) with
  | none => rfl
  | some token =>
    -- A spelling of two words has one of a few first words.
    have hfirst : fold word ∈ "C" :: pairHeads := by
      rcases (standard_pair hs).2 with hhead | ⟨hc, -, -⟩
      · exact List.mem_cons_of_mem _ hhead
      · exact hc ▸ List.mem_cons_self
    have hnot := List.all_eq_true.mp hheads _ hfirst
    simp [h] at hnot

/-- Without a shortcut the words are read as they are. -/
theorem resolve_eq (hs : Table.standard.shortcut? (fold word) = none) (others : List String) :
    resolve Table.standard (word :: others) = resolveWords Table.standard (word :: others) := by
  have hdrop : dropShift (word :: others) = word :: others := by
    rw [dropShift, if_neg]
    simp [h.not_shift]
  have hexpand : Table.standard.expand (word :: others) = word :: others := by
    cases others with
    | nil => simp [Table.expand, Table.expand?, hs]
    | cons next others => simp [Table.expand, Table.expand?, hs, h.shortcut_pair]
  rw [resolve_of_statement (by simp [hdrop]), hdrop, hexpand]

/-- If the word alone selects no command, none is selected. -/
theorem walk (hnone : argument? Table.standard Table.standard.root word = none) (others : List String) :
    Walk Table.standard Table.standard.root (word :: others) [] (word :: others) := by
  have hstuck : Stuck Table.standard Table.standard.root (word :: others) := by
    cases others with
    | nil => exact stuck_singleton hnone
    | cons next others => exact stuck_pair (argument_none_of_canonical _ (h.canonical_pair next)) hnone
  exact ⟨rfl, .nil _, trivial, hstuck⟩

/-- If it selects a complete command, this is read. -/
theorem walk_command {token : String} {node : Node} (hc : Table.standard.canonical? (fold word) = some token)
    (hnode : Table.standard.root.child? token = some node) (hcomplete : node.isComplete) (others : List String) :
    Walk Table.standard Table.standard.root (word :: others) [⟨[word], token, node⟩] others := by
  have hselects : Selects Table.standard Table.standard.root ⟨[word], token, node⟩ := by
    refine ⟨Or.inl rfl, ?_, hnode⟩
    rw [String.intercalate_singleton]
    exact hc
  refine ⟨rfl, .cons hselects (.nil _), ⟨?_, trivial⟩, stuck_of_complete hcomplete others⟩
  intro pair hpair hl hfront
  -- No two words at the front select anything.
  obtain ⟨first, second, hwords⟩ := List.length_eq_two.mp hl
  have hspelling := hpair.spelling
  have hfirst : first = word := by
    rw [hwords] at hfront
    exact (List.cons_prefix_cons.mp hfront).1
  rw [hwords, hfirst, String.intercalate_cons_cons, String.intercalate_singleton, h.canonical_pair] at hspelling
  simp at hspelling

end BeginsLiteral

section Numerals

variable {word : String} {n : Numeral} (h : Numeral.ofWord? word = some n)
include h

theorem numeralChars_of_numeral : ∀ c ∈ (fold word).toList, c ∈ numeralChars := by
  rw [fold_toList, foldChars_numeral_iff]
  exact Numeral.ofWord_not_foreign h

theorem beginsLiteral_of_numeral : BeginsLiteral word := by
  have hchars := numeralChars_of_numeral h
  have hne : (fold word).toList ≠ [] := by
    rw [fold_toList, foldChars_of_numeral (Numeral.ofWord_not_foreign h), Ne, List.map_eq_nil_iff]
    intro hempty
    have hnone : Numeral.ofWord? "" = none := by decide
    rw [String.toList_eq_nil_iff.mp hempty, hnone] at h
    simp at h
  obtain ⟨c, cs, hcs⟩ := List.exists_cons_of_ne_nil hne
  rw [BeginsLiteral, headed, hcs]
  simp [literalHeads, hchars c (by simp [hcs])]

theorem shortcut_none_of_numeral : Table.standard.shortcut? (fold word) = none := by
  apply Option.eq_none_iff_forall_ne_some.mpr
  intro phrase hs
  exact (shortcut_not_literal hs).1 (numeralChars_of_numeral h)

theorem ofWord_fold : Numeral.ofWord? (fold word) = some n := by
  have hchars := numeralChars_of_numeral h
  have hraised (c : Char) (hc : c ∈ (fold word).toList) : raiseMark c = c := by
    rw [raiseMark, if_neg]
    rintro rfl
    exact absurd (hchars 'e' hc) (by decide)
  have hfixed : fold (fold word) = fold word := by
    apply String.toList_injective
    rw [fold_toList (fold word), foldChars_of_numeral, List.map_congr_left hraised, List.map_id']
    intro c hc
    rw [Foreign, not_not]
    exact List.mem_cons_of_mem _ (hchars c hc)
  rw [Numeral.ofWord_eq_of_fold hfixed, h]

/-- A numeral that is a spelling stands for its only key, or for an argument that is no command. -/
theorem numeral_spelling {token : String} (hc : Table.standard.canonical? (fold word) = some token) :
    n.tokens = [token] ∨ Table.standard.root.child? token = none := by
  have hchars := numeralChars_of_numeral h
  rcases mem_standardAliases hc with hm | hm | hm
  · have hchecked := List.all_eq_true.mp standardAliases_literal _ hm
    have hall : (fold word).toList.all numeralChars.contains = true := by simpa using hchars
    simp only [hall, ofWord_fold h, Bool.and_eq_true, Bool.not_true, Bool.false_or, Option.all_some,
      Bool.or_eq_true, beq_iff_eq, List.contains_iff_mem] at hchecked
    exact hchecked.2.imp_right (dotted_no_command token)
  · rw [hm] at hchars
    exact absurd (hchars 'R' (by simp)) (by decide)
  · rw [hm] at hchars
    exact absurd (hchars 'D' (by simp)) (by decide)

theorem literal_of_numeral (table : Table) : literal table word = .ok (n.keys table) := by
  have hnone : expression? word = none := by
    have hdollar : '$' ∉ word.toList := by
      intro hm
      exact absurd (Numeral.ofWord_word_chars h '$' hm) (by decide)
    unfold expression?
    split
    · rename_i rest hword
      exact absurd (by simp [hword]) hdollar
    · rfl
  rw [literal_of_not_expression table hnone, h]
  rfl

theorem keys_ne_nil (table : Table) : n.keys table ≠ [] := by
  rw [Numeral.keys, Ne, List.map_eq_nil_iff]
  exact (Numeral.written_of_ofChars h).tokens_ne_nil

end Numerals

/-- A numeral is keyed in, whatever words follow. -/
theorem standard_numeral_is_keyed_in (word : String) (n : Numeral) (h : Numeral.ofWord? word = some n)
    (others : List String) :
    resolve Table.standard (word :: others) = .ok { records := n.keys Table.standard, rest := others } := by
  have hbegins := beginsLiteral_of_numeral h
  rw [hbegins.resolve_eq (shortcut_none_of_numeral h)]
  cases ha : argument? Table.standard Table.standard.root word with
  | none =>
    exact (hbegins.walk ha others).resolveWords_eq (.literal rfl rfl (literal_of_numeral h _) (keys_ne_nil h _))
  | some step =>
    obtain ⟨token, node⟩ := step
    obtain ⟨hc, hnode⟩ := (argument_eq_some_iff _ _ _ _ _).mp ha
    have htokens : n.tokens = [token] := by
      refine (numeral_spelling h hc).resolve_right ?_
      rw [hnode]
      simp
    obtain ⟨node', hnode', hcomplete, hcomment, hshift⟩ :=
      standard_numeralKeys token (tokens_mem_numeralKeys h token (by simp [htokens]))
    obtain rfl : node = node' := Option.some.inj (hnode.symm.trans hnode')
    have hrecord := Record.ofPath_eq_key hnode hcomment hshift
    rw [(hbegins.walk_command hc hnode hcomplete others).resolveWords_eq (.command (by simp) hcomplete)]
    simp [Numeral.keys, htokens, hrecord]

-- As an argument this word is a spelling of the dotted register.
theorem standard_numeral_is_keyed_in_register :
    Alias.lookup? standardAliases "10" = some ".0" ∧ Numeral.ofWord? "10" = some { mantissa := "10" } ∧
    resolve Table.standard ["10", "X"] =
      .ok { records := ["1", "0"].map (Record.key Table.standard), rest := ["X"] } := by
  have hword : Numeral.ofWord? "10" = some { mantissa := "10" } := by decide
  exact ⟨by decide, hword, standard_numeral_is_keyed_in "10" _ hword ["X"]⟩

/-- The word of a constant expression. -/
def expressionWord (expression : String) : String :=
  "$(" ++ expression ++ ")"

theorem expression_expressionWord {expression : String} (hne : expression ≠ "")
    (hline : '\n' ∉ expression.toList) : expression? (expressionWord expression) = some expression := by
  have hword : (expressionWord expression).toList = '$' :: '(' :: (expression.toList ++ [')']) := by
    simp [expressionWord]
  simp [expression?, hword, hne, hline]

/-- A bracket does not join with the character before it, so the fold of an expression begins as it does. -/
theorem head_fold_expressionWord (expression : String) :
    (fold (expressionWord expression)).toList.head? = some '$' := by
  have hword : (expressionWord expression).toList = ['$'] ++ '(' :: (expression.toList ++ [')']) := by
    simp [expressionWord]
  have hdollar : upper (normal ['$']) = ['$'] := by decide
  have hfold : (fold (expressionWord expression)).toList =
      upper (normal ['$']) ++ upper (normal ('(' :: (expression.toList ++ [')']))) := by
    rw [fold_toList, hword, foldChars, normal_append_starter _ _ '(' (by decide)]
    exact List.flatMap_append
  rw [hfold, hdollar]
  rfl

theorem beginsLiteral_expressionWord (expression : String) : BeginsLiteral (expressionWord expression) := by
  rw [BeginsLiteral, headed, head_fold_expressionWord]
  decide

theorem shortcut_none_of_dollar {spelling : String} (h : spelling.toList.head? = some '$') :
    Table.standard.shortcut? spelling = none := by
  apply Option.eq_none_iff_forall_ne_some.mpr
  intro phrase hs
  exact (shortcut_not_literal hs).2.1 h

theorem canonical_none_of_dollar {spelling : String} (h : spelling.toList.head? = some '$') :
    Table.standard.canonical? spelling = none := by
  cases hs : Table.standard.canonical? spelling with
  | none => rfl
  | some token =>
    rcases mem_standardAliases hs with hm | rfl | rfl
    · have hchecked := List.all_eq_true.mp standardAliases_literal _ hm
      simp [h] at hchecked
    · exact absurd h (by decide)
    · exact absurd h (by decide)

theorem literal_of_expression {word expression : String} (h : expression? word = some expression) (table : Table) :
    literal table word = (Constant.evaluate expression).map fun text =>
      ((Numeral.ofWord? text).map (Numeral.keys table)).getD [] := by
  unfold literal
  simp only [h]
  cases Constant.evaluate expression with
  | error failure => rfl
  | ok text =>
    dsimp only [Except.map]
    cases Numeral.ofWord? text <;> rfl

/-- The diagnostic of an expression that can not be worked out. -/
def expressionFailure (word : String) (others : List String) (failure : Constant.Failure) : Diagnostic where
  kind := .expressionInvalid
  token := word
  words := word :: others
  reason := some (.expression failure)

/-- A constant expression is worked out to a numeral, which is keyed in, or the failure is reported; whatever words
follow, they are left. -/
theorem standard_expression_is_keyed_or_reported (expression : String) (others : List String)
    (hne : expression ≠ "") (hline : '\n' ∉ expression.toList) :
    (∃ text n, Constant.evaluate expression = .ok text ∧ Numeral.ofWord? text = some n ∧
      n.keys Table.standard ≠ [] ∧
      resolve Table.standard (expressionWord expression :: others) =
        .ok { records := n.keys Table.standard, rest := others }) ∨
    ∃ failure, Constant.evaluate expression = .error failure ∧
      resolve Table.standard (expressionWord expression :: others) =
        .ok { rest := others, diagnostic := some (expressionFailure (expressionWord expression) others failure) } := by
  have hbegins := beginsLiteral_expressionWord expression
  have hhead := head_fold_expressionWord expression
  have hnone : argument? Table.standard Table.standard.root (expressionWord expression) = none :=
    argument_none_of_canonical _ (canonical_none_of_dollar hhead)
  have hwalk := hbegins.walk hnone others
  have hliteral := literal_of_expression (expression_expressionWord hne hline) Table.standard
  rw [hbegins.resolve_eq (shortcut_none_of_dollar hhead)]
  cases he : Constant.evaluate expression with
  | ok text =>
    left
    -- What the evaluation prints is what numerals are read from.
    obtain ⟨n, hn⟩ := Number.exists_numeral_of_isNumberText (Constant.isNumberText_evaluate he)
    have hkeys := keys_ne_nil hn Table.standard
    have hread : literal Table.standard (expressionWord expression) = .ok (n.keys Table.standard) := by
      rw [hliteral, he]
      simp [Except.map, hn]
    exact ⟨text, n, rfl, hn, hkeys, hwalk.resolveWords_eq (.literal rfl rfl hread hkeys)⟩
  | error failure =>
    right
    have hfailed : literal Table.standard (expressionWord expression) = .error failure := by
      rw [hliteral, he]
      rfl
    exact ⟨failure, rfl, hwalk.resolveWords_eq (.expression rfl rfl hfailed)⟩

theorem standard_expression_is_keyed_or_reported_division :
    resolve Table.standard ["$(7//2-9)", "X"] =
      .ok { records := ["6", "CHS"].map (Record.key Table.standard), rest := ["X"] } ∧
    ∃ failure, resolve Table.standard ["$(7//0)", "X"] =
      .ok { rest := ["X"], diagnostic := some (expressionFailure "$(7//0)" ["X"] failure) } := by
  have hvalues : (Constant.evaluate "7//2-9").toOption = some "-6" ∧
      (Constant.evaluate "7//0").toOption = none := by
    decide +kernel
  constructor
  · rcases standard_expression_is_keyed_or_reported "7//2-9" ["X"] (by decide) (by decide) with
      ⟨text, n, he, hn, -, hkeyed⟩ | ⟨failure, he, -⟩
    · have htext : text = "-6" := by simpa [he, Except.toOption] using hvalues.1
      have hnumeral : Numeral.ofWord? "-6" = some { negative := true, mantissa := "6" } := by decide
      rw [htext, hnumeral] at hn
      obtain rfl := Option.some.inj hn
      exact hkeyed
    · simp [he, Except.toOption] at hvalues
  · rcases standard_expression_is_keyed_or_reported "7//0" ["X"] (by decide) (by decide) with
      ⟨text, n, he, -⟩ | ⟨failure, -, hreported⟩
    · simp [he, Except.toOption] at hvalues
    · exact ⟨failure, hreported⟩

end Keystroke.Statement
