import Keystroke.Statement.Numeral
import Mathlib.Data.List.Basic

/-! Decimal and grouping separators. If both points and commas occur in a text, those that come later are decimal and
the others group; if only one kind occurs, it is decimal. Nothing in this rule tells a point from a comma, so a word
with the two exchanged is read as the same numeral. -/
namespace Keystroke.Statement.Numeral

/-- A comma for a point and a point for a comma. -/
def exchange (c : Char) : Char :=
  if c = '.' then ',' else if c = ',' then '.' else c

theorem isSeparator_iff (c : Char) : isSeparator c = true ↔ c = '.' ∨ c = ',' := by
  simp [isSeparator]

theorem exchange_of_not_separator {c : Char} (h : ¬ isSeparator c = true) : exchange c = c := by
  rw [isSeparator_iff, not_or] at h
  rw [exchange, if_neg h.1, if_neg h.2]

theorem exchange_exchange (c : Char) : exchange (exchange c) = c := by
  by_cases h : isSeparator c = true
  · rcases (isSeparator_iff c).mp h with rfl | rfl
    · rfl
    · rfl
  · rw [exchange_of_not_separator h, exchange_of_not_separator h]

theorem exchange_injective : Function.Injective exchange :=
  Function.LeftInverse.injective exchange_exchange

theorem isSeparator_exchange (c : Char) : isSeparator (exchange c) = isSeparator c := by
  by_cases h : isSeparator c = true
  · rcases (isSeparator_iff c).mp h with rfl | rfl
    · rfl
    · rfl
  · rw [exchange_of_not_separator h]

/-- Two different separators are the two that there are. -/
theorem eq_exchange_of_ne {c d : Char} (hc : isSeparator c = true) (hd : isSeparator d = true) (h : c ≠ d) :
    c = exchange d := by
  rcases (isSeparator_iff c).mp hc with rfl | rfl
  · rcases (isSeparator_iff d).mp hd with rfl | rfl
    · exact absurd rfl h
    · rfl
  · rcases (isSeparator_iff d).mp hd with rfl | rfl
    · rfl
    · exact absurd rfl h

/-- The decimal separator of a text: the one that comes later, or the only one. -/
def decimalSeparator (cs : List Char) : Char :=
  match cs.find? isSeparator with
  | none => '.'
  | some first => if cs.contains (exchange first) then exchange first else first

/-- A text with its decimal separator written as a point and without the grouping one. -/
def withDecimal (decimal : Char) (cs : List Char) : List Char :=
  (cs.filter (· ≠ exchange decimal)).map fun c => if c = decimal then '.' else c

theorem withDecimal_point (cs : List Char) : withDecimal '.' cs = cs.filter (· ≠ ',') := by
  have hpoint (c : Char) : (if c = '.' then '.' else c) = c := by
    split_ifs with h
    · exact h.symm
    · rfl
  simp only [withDecimal, hpoint, List.map_id']
  rfl

theorem withDecimal_comma (cs : List Char) :
    withDecimal ',' cs = (cs.filter (· ≠ '.')).map fun c => if c = ',' then '.' else c := rfl

theorem decimalSeparator_of_no_comma {cs : List Char} (h : ',' ∉ cs) : decimalSeparator cs = '.' := by
  unfold decimalSeparator
  cases hfirst : cs.find? isSeparator with
  | none => rfl
  | some first =>
    have hpoint : first = '.' := by
      apply ((isSeparator_iff first).mp (List.find?_some hfirst)).resolve_right
      rintro rfl
      exact h (List.mem_of_find?_eq_some hfirst)
    simp [hpoint, exchange, h]

/-- This is the rule by which the separators are written in one way. -/
theorem normalizePoint_eq (cs : List Char) : normalizePoint cs = withDecimal (decimalSeparator cs) cs := by
  unfold normalizePoint
  by_cases hcomma : ',' ∈ cs
  · obtain ⟨first, hfirst⟩ : ∃ first, cs.find? isSeparator = some first :=
      Option.isSome_iff_exists.mp (List.find?_isSome.mpr ⟨',', hcomma, rfl⟩)
    rw [decimalSeparator, if_neg (by simpa using hcomma), hfirst]
    rcases (isSeparator_iff first).mp (List.find?_some hfirst) with rfl | rfl
    · simp [hcomma, exchange, withDecimal_comma]
    · -- Behind the first comma a point decides.
      by_cases hpoint : '.' ∈ cs
      · simp [hpoint, exchange, withDecimal_point]
      · simp [hpoint, exchange, withDecimal_comma]
  · have hkept : cs.filter (· ≠ ',') = cs := by
      rw [List.filter_eq_self]
      intro c hc
      exact decide_eq_true (ne_of_mem_of_not_mem hc hcomma)
    rw [if_pos (by simpa using hcomma), decimalSeparator_of_no_comma hcomma, withDecimal_point, hkept]

theorem withDecimal_exchange {decimal : Char} (hd : isSeparator decimal = true) (cs : List Char) :
    withDecimal (exchange decimal) (cs.map exchange) = withDecimal decimal cs := by
  have hkept : (fun c => decide (c ≠ exchange (exchange decimal))) ∘ exchange =
      fun c => decide (c ≠ exchange decimal) := by
    funext c
    have hiff : exchange c = exchange (exchange decimal) ↔ c = exchange decimal := exchange_injective.eq_iff
    simp [hiff]
  unfold withDecimal
  rw [List.filter_map, hkept, List.map_map]
  apply List.map_congr_left
  intro c hc
  have hgroup : c ≠ exchange decimal := by simpa using (List.mem_filter.mp hc).2
  by_cases hdecimal : c = decimal
  · simp [hdecimal]
  · -- What is kept besides the decimal separator is no separator.
    have hother : ¬ isSeparator c = true := fun h => hgroup (eq_exchange_of_ne h hd hdecimal)
    simp [hdecimal, hgroup, exchange_of_not_separator hother]

theorem decimalSeparator_exchange {cs : List Char} {first : Char} (h : cs.find? isSeparator = some first) :
    decimalSeparator (cs.map exchange) = exchange (decimalSeparator cs) := by
  have hfirst : (cs.map exchange).find? isSeparator = some (exchange first) := by
    have hsame : isSeparator ∘ exchange = isSeparator := funext isSeparator_exchange
    rw [List.find?_map, hsame, h]
    rfl
  have hcontains : (cs.map exchange).contains (exchange (exchange first)) = cs.contains (exchange first) := by
    rw [Bool.eq_iff_iff, List.contains_iff_mem, List.contains_iff_mem, List.mem_map_of_injective exchange_injective]
  unfold decimalSeparator
  rw [hfirst, h]
  dsimp only
  rw [hcontains]
  split_ifs
  · rfl
  · rfl

theorem isSeparator_decimalSeparator {cs : List Char} {first : Char} (h : cs.find? isSeparator = some first) :
    isSeparator (decimalSeparator cs) = true := by
  have hsep := List.find?_some h
  unfold decimalSeparator
  rw [h]
  dsimp only
  split_ifs
  · rwa [isSeparator_exchange]
  · exact hsep

theorem normalizePoint_exchange (cs : List Char) : normalizePoint (cs.map exchange) = normalizePoint cs := by
  cases hfirst : cs.find? isSeparator with
  | none =>
    have hsame : cs.map exchange = cs.map id :=
      List.map_congr_left fun c hc => exchange_of_not_separator (List.find?_eq_none.mp hfirst c hc)
    rw [hsame, List.map_id]
  | some first =>
    calc normalizePoint (cs.map exchange)
        = withDecimal (decimalSeparator (cs.map exchange)) (cs.map exchange) := normalizePoint_eq _
      _ = withDecimal (exchange (decimalSeparator cs)) (cs.map exchange) := by
          rw [decimalSeparator_exchange hfirst]
      _ = withDecimal (decimalSeparator cs) cs := withDecimal_exchange (isSeparator_decimalSeparator hfirst) cs
      _ = normalizePoint cs := (normalizePoint_eq cs).symm

/-- A word with its points and commas exchanged is the same numeral, or neither word is one. -/
theorem numerals_exchange_separators (word : String) : ofWord? (word.map exchange) = ofWord? word := by
  unfold ofWord?
  rw [String.toList_map, normalizePoint_exchange]

end Keystroke.Statement.Numeral
