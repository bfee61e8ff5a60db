import Keystroke.Proofs.Instructions
import Keystroke.Proofs.NumeralGrammar

/-! Keying in a numeral. Its keys are pressed one after the other, starting from an empty entry. One key changes
signs, that of the mantissa or that of the exponent, and another one opens the exponent; so the place of a key
decides what it does. What has been entered in the end are the parts of the numeral. -/
namespace Keystroke.Statement

open Keystroke.Command

/-- The number that is being keyed in. -/
structure KeyEntry where
  negative : Bool := false
  mantissa : String := ""
  /-- Whether the exponent has been opened. -/
  isScaled : Bool := false
  exponent : String := ""
  exponentNegative : Bool := false
deriving DecidableEq

/-- The digit on a key. -/
def digitOfKey? (key : String) : Option Char :=
  match key.toList with
  | [c] => if c.isDigit then some c else none
  | _ => none

namespace KeyEntry

/-- Adds text to the exponent if it has been opened, else to the mantissa. -/
def append (entry : KeyEntry) (text : String) : KeyEntry :=
  if entry.isScaled then { entry with exponent := entry.exponent ++ text }
  else { entry with mantissa := entry.mantissa ++ text }

/-- Changes the sign of the exponent if it has been opened, else that of the mantissa. -/
def changeSign (entry : KeyEntry) : KeyEntry :=
  if entry.isScaled then { entry with exponentNegative := !entry.exponentNegative }
  else { entry with negative := !entry.negative }

/-- Presses a key. Once the exponent has been opened it takes neither a point nor another exponent. -/
def press (entry : KeyEntry) (key : String) : Option KeyEntry :=
  if (digitOfKey? key).isSome || key = "." && !entry.isScaled then some (entry.append key)
  else if key = "CHS" then some entry.changeSign
  else if key = "EEX" && !entry.isScaled then some { entry with isScaled := true }
  else none

/-- Presses keys from left to right. -/
def pressAll (entry : KeyEntry) (keys : List String) : Option KeyEntry :=
  keys.foldlM press entry

/-- The entry of a numeral. -/
def ofNumeral (n : Numeral) : KeyEntry where
  negative := n.negative
  mantissa := n.mantissa
  isScaled := n.exponent ≠ ""
  exponent := n.exponent
  exponentNegative := n.exponentNegative

theorem isScaled_append (entry : KeyEntry) (text : String) : (entry.append text).isScaled = entry.isScaled := by
  unfold append
  split_ifs <;> rfl

theorem append_empty (entry : KeyEntry) : entry.append "" = entry := by
  unfold append
  split_ifs <;> simp

theorem append_append (entry : KeyEntry) (text other : String) :
    (entry.append text).append other = entry.append (text ++ other) := by
  unfold append
  split_ifs <;> simp_all [String.append_assoc]

theorem pressAll_cons (entry : KeyEntry) (key : String) (keys : List String) :
    entry.pressAll (key :: keys) = (entry.press key).bind (·.pressAll keys) := rfl

theorem pressAll_append (entry : KeyEntry) (keys others : List String) :
    entry.pressAll (keys ++ others) = (entry.pressAll keys).bind (·.pressAll others) :=
  List.foldlM_append

theorem digitOfKey_singleton (c : Char) :
    digitOfKey? (String.singleton c) = if c.isDigit then some c else none := by
  simp [digitOfKey?]

theorem press_singleton {entry : KeyEntry} {c : Char}
    (h : c.isDigit = true ∨ c = '.' ∧ entry.isScaled = false) :
    entry.press (String.singleton c) = some (entry.append (String.singleton c)) := by
  unfold press
  rw [if_pos]
  rcases h with hdigit | ⟨rfl, hscaled⟩
  · simp [digitOfKey_singleton, hdigit]
  · have hpoint : String.singleton '.' = "." := rfl
    simp [hpoint, hscaled]

theorem press_sign (entry : KeyEntry) : entry.press "CHS" = some entry.changeSign := by
  have hkey : digitOfKey? "CHS" = none := rfl
  simp [press, hkey]

theorem press_scale {entry : KeyEntry} (hs : entry.isScaled = false) :
    entry.press "EEX" = some { entry with isScaled := true } := by
  have hkey : digitOfKey? "EEX" = none := rfl
  simp [press, hkey, hs]

/-- Digits, and a point where one can be entered, are added one by one. -/
theorem pressAll_singletons {entry : KeyEntry} {cs : List Char}
    (h : ∀ c ∈ cs, c.isDigit = true ∨ c = '.' ∧ entry.isScaled = false) :
    entry.pressAll (cs.map String.singleton) = some (entry.append (String.ofList cs)) := by
  induction cs generalizing entry with
  | nil =>
    rw [String.ofList_nil, append_empty]
    rfl
  | cons c cs ih =>
    rw [List.forall_mem_cons] at h
    have hnext : ∀ d ∈ cs, d.isDigit = true ∨ d = '.' ∧ (entry.append (String.singleton c)).isScaled = false := by
      rw [isScaled_append]
      exact h.2
    have hjoin : String.singleton c ++ String.ofList cs = String.ofList (c :: cs) := by
      apply String.toList_injective
      simp
    rw [List.map_cons, pressAll_cons, press_singleton h.1, Option.bind_some, ih hnext, append_append, hjoin]

/-- The key that changes signs is pressed once for a negative part, and not at all for another one. -/
theorem pressAll_sign (entry : KeyEntry) (negative : Bool) :
    entry.pressAll (if negative then ["CHS"] else []) = some (if negative then entry.changeSign else entry) := by
  cases negative with
  | false => rfl
  | true =>
    rw [if_pos rfl, if_pos rfl, pressAll_cons, press_sign]
    rfl

/-- The mantissa and its sign come first, on an entry without an exponent. -/
theorem pressAll_mantissa {n : Numeral} (h : ∀ c ∈ n.mantissa.toList, c.isDigit = true ∨ c = '.') :
    pressAll {} (n.mantissa.toList.map String.singleton ++ (if n.negative then ["CHS"] else [])) =
      some { negative := n.negative, mantissa := n.mantissa } := by
  have hchars : ∀ c ∈ n.mantissa.toList, c.isDigit = true ∨ c = '.' ∧ ({} : KeyEntry).isScaled = false := by
    intro c hc
    exact (h c hc).imp_right fun hpoint => ⟨hpoint, rfl⟩
  rw [pressAll_append, pressAll_singletons hchars, Option.bind_some, pressAll_sign]
  cases hn : n.negative <;> simp [append, changeSign]

/-- The exponent and its sign come after the key that opens it. -/
theorem pressAll_exponent {entry : KeyEntry} {n : Numeral} (hs : entry.isScaled = false)
    (he : entry.exponent = "" ∧ entry.exponentNegative = false)
    (h : ∀ c ∈ n.exponent.toList, c.isDigit = true) :
    entry.pressAll ("EEX" :: (if n.exponentNegative then ["CHS"] else []) ++
        n.exponent.toList.map String.singleton) =
      some { entry with isScaled := true, exponent := n.exponent, exponentNegative := n.exponentNegative } := by
  rw [List.cons_append, pressAll_cons, press_scale hs, Option.bind_some, pressAll_append, pressAll_sign,
    Option.bind_some, pressAll_singletons fun c hc => Or.inl (h c hc)]
  cases hn : n.exponentNegative <;> simp [append, changeSign, he]

/-- All keys of a numeral, in their order. -/
theorem pressAll_tokens {n : Numeral} (hmantissa : ∀ c ∈ n.mantissa.toList, c.isDigit = true ∨ c = '.')
    (hexponent : ∀ c ∈ n.exponent.toList, c.isDigit = true)
    (hnone : n.exponent = "" → n.exponentNegative = false) :
    pressAll {} n.tokens = some (ofNumeral n) := by
  unfold Numeral.tokens
  rw [pressAll_append, pressAll_mantissa hmantissa, Option.bind_some]
  by_cases hempty : n.exponent = ""
  · simp [pressAll, ofNumeral, hempty, hnone hempty]
  · rw [if_neg hempty, pressAll_exponent rfl ⟨rfl, rfl⟩ hexponent]
    simp [ofNumeral, hempty]

end KeyEntry

namespace Numeral

theorem Written.exponent_none {n : Numeral} {cs : List Char} (h : Written n cs) (hnone : n.exponent = "") :
    n.exponentNegative = false := by
  have hne {negative : Bool} {digits exponent : List Char} (he : IsExponent negative digits exponent) :
      String.ofList digits ≠ "" := by
    simpa using he.digits_ne_nil
  cases h with
  | plain => rfl
  | scaled _ _ _ hexponent => exact absurd hnone (hne hexponent)
  | bare hexponent => exact absurd hnone (hne hexponent)

theorem IsSign.filter_isDigit {negative : Bool} {sign : List Char} (h : IsSign negative sign) :
    sign.filter Char.isDigit = [] := by
  cases h <;> rfl

theorem IsExponent.filter_isDigit {negative : Bool} {digits cs : List Char} (h : IsExponent negative digits cs) :
    cs.filter Char.isDigit = digits.filter Char.isDigit := by
  cases h with
  | mk hsign => simp [hsign.filter_isDigit]

/-- The digits of a written numeral are those of its parts. -/
theorem Written.filter_isDigit {n : Numeral} {cs : List Char} (h : Written n cs) :
    cs.filter Char.isDigit = n.mantissa.toList.filter Char.isDigit ++ n.exponent.toList.filter Char.isDigit := by
  cases h with
  | plain hsign => simp [hsign.filter_isDigit]
  | scaled hsign _ _ hexponent => simp [hsign.filter_isDigit, hexponent.filter_isDigit]
  | bare hexponent => simp [hexponent.filter_isDigit]

/-- Characters are only rewritten to others that are no digits either. -/
theorem filter_isDigit_map {f : Char → Char} (h : ∀ c, f c = c ∨ c.isDigit = false ∧ (f c).isDigit = false)
    (cs : List Char) : (cs.map f).filter Char.isDigit = cs.filter Char.isDigit := by
  induction cs with
  | nil => rfl
  | cons c cs ih =>
    rw [List.map_cons, List.filter_cons, List.filter_cons, ih]
    rcases h c with hsame | ⟨hc, hf⟩
    · rw [hsame]
    · simp [hc, hf]

theorem filter_isDigit_drop {d : Char} (hd : d.isDigit = false) (cs : List Char) :
    (cs.filter (· ≠ d)).filter Char.isDigit = cs.filter Char.isDigit := by
  rw [List.filter_filter]
  apply List.filter_congr
  intro c _
  by_cases hc : c = d
  · simp [hc, hd]
  · simp [hc]

/-- The separators and marks of a word are none of its digits. -/
theorem filter_isDigit_normal (cs : List Char) :
    ((normalizePoint cs).map normalizeMark).filter Char.isDigit = cs.filter Char.isDigit := by
  have hmark (c : Char) : normalizeMark c = c ∨ c.isDigit = false ∧ (normalizeMark c).isDigit = false := by
    unfold normalizeMark
    split_ifs with hc
    · rw [Bool.or_eq_true, decide_eq_true_eq, decide_eq_true_eq] at hc
      rcases hc with rfl | rfl
      · exact Or.inr (by decide)
      · exact Or.inr (by decide)
    · exact Or.inl rfl
  have hcomma (c : Char) : (if c = ',' then '.' else c) = c ∨
      c.isDigit = false ∧ (if c = ',' then '.' else c).isDigit = false := by
    split_ifs with hc
    · rw [hc]
      exact Or.inr (by decide)
    · exact Or.inl rfl
  rw [filter_isDigit_map hmark]
  unfold normalizePoint
  split_ifs
  · rfl
  · exact filter_isDigit_drop (by decide) cs
  · rw [filter_isDigit_map hcomma]
    exact filter_isDigit_drop (by decide) cs

end Numeral

theorem filterMap_digitOfKey (cs : List Char) :
    (cs.map String.singleton).filterMap digitOfKey? = cs.filter Char.isDigit := by
  rw [List.filterMap_map, ← List.filterMap_eq_filter]
  apply List.filterMap_congr
  intro c _
  rw [Function.comp_apply, KeyEntry.digitOfKey_singleton]
  rfl

/-- The digits pressed for a numeral are those of its parts. -/
theorem filterMap_tokens (n : Numeral) : n.tokens.filterMap digitOfKey? =
    n.mantissa.toList.filter Char.isDigit ++ n.exponent.toList.filter Char.isDigit := by
  have hsign (negative : Bool) : (if negative then ["CHS"] else []).filterMap digitOfKey? = [] := by
    cases negative <;> rfl
  have hscale : digitOfKey? "EEX" = none := rfl
  unfold Numeral.tokens
  rw [List.filterMap_append, List.filterMap_append, filterMap_digitOfKey, hsign, List.append_nil]
  by_cases hempty : n.exponent = ""
  · simp [hempty]
  · rw [if_neg hempty, List.cons_append, List.filterMap_cons_none hscale, List.filterMap_append, hsign,
      filterMap_digitOfKey, List.nil_append]

theorem flatMap_path_keys (table : Table) (n : Numeral) : (n.keys table).flatMap Record.path = n.tokens := by
  rw [Numeral.keys, List.flatMap_map]
  exact List.flatMap_singleton' n.tokens

/-- Keying in a numeral enters just its parts, whatever the command set. The digits that are pressed are those of
the word, in their order, and on the HP-15C every instruction has the keycode of its key and no other one. -/
theorem keying_in_enters_numeral (table : Table) (word : String) (n : Numeral)
    (h : Numeral.ofWord? word = some n) :
    KeyEntry.pressAll {} ((n.keys table).flatMap Record.path) = some (KeyEntry.ofNumeral n) ∧
    ((n.keys table).flatMap Record.path).filterMap digitOfKey? = word.toList.filter Char.isDigit ∧
    ∀ record ∈ n.keys Table.standard, ∃ key node, record.path = [key] ∧
      Table.standard.root.child? key = some node ∧ record.keycodes = [node.keycode] := by
  have hwritten := Numeral.written_of_ofChars h
  obtain ⟨hmantissa, hexponent⟩ := ofWord_chars h
  rw [flatMap_path_keys]
  refine ⟨KeyEntry.pressAll_tokens hmantissa hexponent hwritten.exponent_none, ?_, ?_⟩
  · rw [filterMap_tokens, ← hwritten.filter_isDigit, Numeral.filter_isDigit_normal]
  · intro record hrecord
    obtain ⟨key, hkey, rfl⟩ := List.mem_map.mp hrecord
    obtain ⟨node, hnode, -⟩ := standard_numeralKeys key (tokens_mem_numeralKeys h key hkey)
    exact ⟨key, node, rfl, hnode, by simp [Record.key, hnode]⟩

/-- A numeral with two signs, whose points group its digits. -/
def groupedNumeral : Numeral :=
  ⟨true, "1234.5", "07", true⟩

theorem keying_in_enters_numeral_grouped :
    Numeral.ofWord? "-1.234,5ᴇ-07" = some groupedNumeral ∧
    groupedNumeral.tokens = ["1", "2", "3", "4", ".", "5", "CHS", "EEX", "CHS", "0", "7"] ∧
    KeyEntry.pressAll {} groupedNumeral.tokens = some ⟨true, "1234.5", true, "07", true⟩ ∧
    groupedNumeral.tokens.filterMap digitOfKey? = "1234507".toList := by
  have hword : Numeral.ofWord? "-1.234,5ᴇ-07" = some groupedNumeral := by decide
  obtain ⟨hentry, hdigits, -⟩ := keying_in_enters_numeral Table.standard _ _ hword
  rw [flatMap_path_keys] at hentry hdigits
  exact ⟨hword, by decide, hentry, hdigits⟩

end Keystroke.Statement
