import Keystroke.Statement.Numeral
import Mathlib.Data.List.Basic

/-! The characters of numerals: a word that is read as a numeral holds digits, signs, points, commas and marks of
the exponent, and nothing else. -/
namespace Keystroke.Statement.Numeral

theorem splitSign_append (cs : List Char) :
    ∃ sign, cs = sign ++ (splitSign cs).2 ∧ ∀ c ∈ sign, c = '+' ∨ c = '-' := by
  unfold splitSign
  split
  · exact ⟨['+'], rfl, by simp⟩
  · exact ⟨['-'], rfl, by simp⟩
  · exact ⟨[], rfl, by simp⟩

theorem splitMantissa_append (cs : List Char) : (splitMantissa cs).1 ++ (splitMantissa cs).2 = cs := by
  have hsplit := List.takeWhile_append_dropWhile (p := Char.isDigit) (l := cs)
  unfold splitMantissa
  dsimp only
  split
  · rename_i rest hrest
    rw [List.append_assoc, List.cons_append, List.takeWhile_append_dropWhile, ← hrest, hsplit]
  · exact hsplit

theorem splitMantissa_chars (cs : List Char) :
    ∀ c ∈ (splitMantissa cs).1, c.isDigit = true ∨ c = '.' := by
  have hdigit {cs : List Char} {c : Char} (h : c ∈ cs.takeWhile Char.isDigit) : c.isDigit = true :=
    List.all_eq_true.mp List.all_takeWhile c h
  intro c hc
  unfold splitMantissa at hc
  dsimp only at hc
  split at hc
  · rw [List.mem_append, List.mem_cons] at hc
    rcases hc with hc | rfl | hc
    · exact Or.inl (hdigit hc)
    · exact Or.inr rfl
    · exact Or.inl (hdigit hc)
  · exact Or.inl (hdigit hc)

/-- An exponent is a mark, a sign and digits, unless it is left out. -/
theorem readExponent_split {cs digits : List Char} {negative : Bool}
    (h : readExponent? cs = some (negative, digits)) :
    (∃ front, cs = front ++ digits ∧ ∀ c ∈ front, c = 'E' ∨ c = '+' ∨ c = '-') ∧
      ∀ c ∈ digits, c.isDigit = true := by
  unfold readExponent? at h
  split at h
  · obtain ⟨-, rfl⟩ : false = negative ∧ [] = digits := by simpa using h
    exact ⟨⟨[], rfl, by simp⟩, by simp⟩
  · rename_i rest
    obtain ⟨sign, hsplit, hsign⟩ := splitSign_append rest
    dsimp only at h
    split_ifs at h with hdigits
    rw [Bool.and_eq_true] at hdigits
    obtain ⟨-, rfl⟩ := Prod.mk.inj (Option.some.inj h)
    refine ⟨⟨'E' :: sign, by rw [List.cons_append, ← hsplit], ?_⟩, by simpa using hdigits.2⟩
    intro c hc
    rcases List.mem_cons.mp hc with rfl | hc
    · exact Or.inl rfl
    · exact Or.inr (hsign c hc)
  · simp at h

/-- The parts of a numeral make up the whole of what it is read from. -/
theorem ofChars_chars {cs : List Char} {n : Numeral} (h : ofChars? cs = some n) :
    ∀ c ∈ cs, c.isDigit = true ∨ c ∈ ['+', '-', '.', 'E'] := by
  obtain ⟨sign, hsign, hsigns⟩ := splitSign_append cs
  have hmantissa := splitMantissa_append (splitSign cs).2
  have hmantissas := splitMantissa_chars (splitSign cs).2
  unfold ofChars? at h
  dsimp only at h
  split at h
  · simp at h
  · rename_i negative exponent hexponent
    obtain ⟨⟨front, hfront, hfronts⟩, hdigits⟩ := readExponent_split hexponent
    intro c hc
    rw [hsign, ← hmantissa, hfront, List.mem_append, List.mem_append, List.mem_append] at hc
    simp only [List.mem_cons, List.not_mem_nil, or_false]
    rcases hc with hc | hc | hc | hc
    · rcases hsigns c hc with rfl | rfl <;> simp
    · rcases hmantissas c hc with hd | rfl
      · exact Or.inl hd
      · simp
    · rcases hfronts c hc with rfl | rfl | rfl <;> simp
    · exact Or.inl (hdigits c hc)

/-- Only separators are dropped or rewritten. -/
theorem mem_normalizePoint {cs : List Char} {c : Char} (hc : c ∈ cs) :
    c ∈ normalizePoint cs ∨ c = '.' ∨ c = ',' := by
  by_cases hdot : c = '.'
  · exact Or.inr (Or.inl hdot)
  by_cases hcomma : c = ','
  · exact Or.inr (Or.inr hcomma)
  left
  unfold normalizePoint
  split_ifs
  · exact hc
  · simpa [hc] using hcomma
  · exact List.mem_map.mpr ⟨c, by simpa [hc] using hdot, by simp [hcomma]⟩

theorem ofWord_word_chars {word : String} {n : Numeral} (h : ofWord? word = some n) :
    ∀ c ∈ word.toList, c.isDigit = true ∨ c ∈ ['+', '-', '.', ',', 'E', 'e', 'ᴇ'] := by
  intro c hc
  rcases mem_normalizePoint hc with hn | rfl | rfl
  · have hmark := ofChars_chars h _ (List.mem_map_of_mem hn)
    unfold normalizeMark at hmark
    split_ifs at hmark with he
    · rw [Bool.or_eq_true, decide_eq_true_eq, decide_eq_true_eq] at he
      rcases he with rfl | rfl <;> simp
    · have hsubset : ['+', '-', '.', 'E'] ⊆ ['+', '-', '.', ',', 'E', 'e', 'ᴇ'] := by simp
      exact hmark.imp_right (@hsubset c)
  · simp
  · simp

end Keystroke.Statement.Numeral
