import Keystroke.Constant.Evaluate
import Keystroke.Proofs.NumeralGrammar
import Mathlib.Algebra.Group.Nat.Defs
import Mathlib.Data.List.DropRight

/-! The texts of numbers. Whole numbers and floats are shown with a sign if they are negative, at least one digit,
perhaps a fraction, and perhaps an exponent with its sign. That a float has a digit at all rests on the rounding: a
number that is not zero never rounds to zero. Every such text is a numeral. -/
namespace Keystroke.Number

open Keystroke.Statement Keystroke.Statement.Numeral

/-- Digits, at least one of them. -/
structure IsDigits (cs : List Char) : Prop where
  ne_nil : cs ≠ []
  digit : ∀ c ∈ cs, c.isDigit = true

/-- A fraction with its point, or nothing. -/
inductive IsFraction : List Char → Prop
  | none : IsFraction []
  | some {digits : List Char} : IsDigits digits → IsFraction ('.' :: digits)

/-- A power of ten with its mark and sign, or nothing. -/
inductive IsPower : List Char → Prop
  | none : IsPower []
  | some {sign : Char} {digits : List Char} : sign ∈ ['+', '-'] → IsDigits digits →
    IsPower ('E' :: sign :: digits)

/-- The text of a number that is not negative. -/
inductive IsMagnitude : List Char → Prop
  | mk {whole fraction power : List Char} : IsDigits whole → IsFraction fraction → IsPower power →
    IsMagnitude (whole ++ fraction ++ power)

/-- The text of a number. -/
inductive IsNumberText : List Char → Prop
  | positive {cs : List Char} : IsMagnitude cs → IsNumberText cs
  | negative {cs : List Char} : IsMagnitude cs → IsNumberText ('-' :: cs)

theorem isDigits_toDigits (n : Nat) : IsDigits (Nat.toDigits 10 n) :=
  ⟨Nat.toDigits_ne_nil, fun _ hc => Nat.isDigit_of_mem_toDigits (by decide) (by decide) hc⟩

theorem IsDigits.isMagnitude {cs : List Char} (h : IsDigits cs) : IsMagnitude cs := by
  have hplain := IsMagnitude.mk h .none .none
  rwa [List.append_nil, List.append_nil] at hplain

theorem digitCount_pos (n : Nat) : 0 < digitCount n :=
  Nat.length_toDigits_pos

theorem lt_pow_digitCount (n : Nat) : n < Nat.pow 10 (digitCount n) :=
  (Nat.length_toDigits_le_iff (by decide) (digitCount_pos n)).mp (Nat.le_refl _)

theorem pow_le_of_digitCount {n : Nat} (h : 0 < n) : Nat.pow 10 (digitCount n - 1) ≤ n := by
  by_contra hlt
  have hsmall : n < Nat.pow 10 (digitCount n - 1) := by omega
  rcases Nat.eq_zero_or_pos (digitCount n - 1) with hone | hmore
  · rw [hone] at hsmall
    exact absurd hsmall (by simp only [Nat.pow]; omega)
  · -- Otherwise the number would fit in one digit less.
    have hcount : digitCount n ≤ digitCount n - 1 := (Nat.length_toDigits_le_iff (by decide) hmore).mpr hsmall
    omega

/-- Shifted by as many digits as are shown, a quotient is at least one. -/
theorem le_shifted {num den : Nat} (hnum : 0 < num) (hden : 0 < den) :
    den * Nat.pow 10 (-((displayDigits : Int) - 1 - leadingPower num den)).toNat ≤
      num * Nat.pow 10 ((displayDigits : Int) - 1 - leadingPower num den).toNat := by
  have hpow {a b : Nat} (h : a ≤ b) : Nat.pow 10 a ≤ Nat.pow 10 b := Nat.pow_le_pow_right (by decide) h
  unfold leadingPower displayDigits
  split_ifs with hle
  · -- The whole part has its digits before the point.
    generalize hk : digitCount (num / den) = k
    have hwhole : Nat.pow 10 (k - 1) * den ≤ num := by
      rw [← Nat.le_div_iff_mul_le hden, ← hk]
      exact pow_le_of_digitCount (Nat.div_pos hle hden)
    calc
      _ ≤ den * Nat.pow 10 (k - 1) := Nat.mul_le_mul_left _ (hpow (by omega))
      _ ≤ num := by rwa [Nat.mul_comm]
      _ ≤ _ := Nat.le_mul_of_pos_right _ (Nat.pow_pos (by decide))
  · -- The inverse has as many digits as there are zeros behind the point.
    generalize hk : digitCount ((den - 1) / num) = k
    have hinverse : den ≤ Nat.pow 10 k * num := by
      have hlt : den - 1 < Nat.pow 10 k * num := by
        rw [← Nat.div_lt_iff_lt_mul hnum, ← hk]
        exact lt_pow_digitCount _
      omega
    rw [show (-(((10 : Nat) : Int) - 1 - -(k : Int))).toNat = 0 by omega]
    calc
      _ = den := Nat.mul_one den
      _ ≤ num * Nat.pow 10 k := by rwa [Nat.mul_comm]
      _ ≤ _ := Nat.mul_le_mul_left _ (hpow (by omega))

theorem roundDiv_pos {num den : Nat} (hden : 0 < den) (h : den ≤ num) : 0 < roundDiv num den := by
  have hwhole : 0 < num / den := Nat.div_pos h hden
  unfold roundDiv
  dsimp only
  split_ifs <;> omega

/-- A quotient that is not zero has a significant digit. -/
theorem roundDisplay_pos {num den : Nat} (hnum : 0 < num) (hden : 0 < den) : 0 < (roundDisplay num den).1 := by
  have hscaled : 0 < den * Nat.pow 10 (-((displayDigits : Int) - 1 - leadingPower num den)).toNat :=
    Nat.mul_pos hden (Nat.pow_pos (by decide))
  unfold roundDisplay
  dsimp only
  split_ifs with hcarry
  · rw [hcarry]
    exact (by decide : 0 < Nat.pow 10 displayDigits / 10)
  · exact roundDiv_pos hscaled (le_shifted hnum hden)

theorem stripZeros_eq (digits : List Char) : stripZeros digits = digits.rdropWhile (· == '0') := rfl

/-- Of a number that is not zero some digits are left. -/
theorem isDigits_stripZeros {n : Nat} (h : 0 < n) : IsDigits (stripZeros (Nat.toDigits 10 n)) := by
  rw [stripZeros_eq]
  constructor
  · intro hnil
    have hzeros : ∀ c ∈ Nat.toDigits 10 n, c = '0' := by
      intro c hc
      simpa using List.rdropWhile_eq_nil_iff.mp hnil c hc
    have hvalue := Nat.ofDigitChars_ten_toDigits (n := n)
    rw [List.eq_replicate_iff.mpr ⟨rfl, hzeros⟩, Nat.ofDigitChars_replicate_zero, Nat.mul_zero] at hvalue
    omega
  · intro c hc
    exact (isDigits_toDigits n).digit c ((List.rdropWhile_prefix _ _).subset hc)

theorem isFraction_pointed {cs : List Char} (h : ∀ c ∈ cs, c.isDigit = true) : IsFraction (pointed cs) := by
  unfold pointed
  split_ifs with hempty
  · exact .none
  · exact .some ⟨by simpa using hempty, h⟩

/-- The exponent of a number that is not written out. -/
theorem isPower_exponent {digits : List Char} (h : IsDigits digits) (power : Int) :
    IsPower ('E' :: (if power < 0 then '-' else '+') :: (if digits.length < 2 then '0' :: digits else digits)) := by
  apply IsPower.some
  · split_ifs <;> simp
  · split_ifs
    · exact ⟨by simp, by simpa using h.digit⟩
    · exact h

theorem isMagnitude_layout {digits : List Char} (h : IsDigits digits) (power : Int) :
    IsMagnitude (layout digits power) := by
  have htake {size : Nat} (hs : 0 < size) : IsDigits (digits.take size) := by
    refine ⟨?_, fun c hc => h.digit c (List.mem_of_mem_take hc)⟩
    rw [Ne, List.take_eq_nil_iff]
    rintro (hzero | hnil)
    · omega
    · exact h.ne_nil hnil
  have hdrop (size : Nat) : IsFraction (pointed (digits.drop size)) :=
    isFraction_pointed fun c hc => h.digit c (List.mem_of_mem_drop hc)
  have hzeros (size : Nat) : ∀ c ∈ List.replicate size '0', c.isDigit = true := by
    intro c hc
    rw [List.eq_of_mem_replicate hc]
    rfl
  unfold layout
  dsimp only
  split
  · rw [List.append_assoc]
    exact .mk (htake (by decide)) (hdrop 1) (isPower_exponent (isDigits_toDigits _) power)
  split
  · -- A zero before the point, and zeros between the point and the digits.
    have hbehind : ∀ c ∈ List.replicate (power.natAbs - 1) '0' ++ digits, c.isDigit = true :=
      List.forall_mem_append.mpr ⟨hzeros _, h.digit⟩
    have hnone := IsMagnitude.mk ⟨List.cons_ne_nil '0' [], by simp⟩ (isFraction_pointed hbehind) .none
    rwa [List.append_nil] at hnone
  · -- Zeros fill up the digits before the point.
    generalize hsize : power.toNat + 1 = size
    have hfront : IsDigits (digits.take size) := htake (by omega)
    have hwhole : IsDigits (digits.take size ++ List.replicate (size - digits.length) '0') :=
      ⟨by simp [hfront.ne_nil], List.forall_mem_append.mpr ⟨hfront.digit, hzeros _⟩⟩
    have hnone := IsMagnitude.mk hwhole (hdrop size) .none
    rwa [List.append_nil] at hnone

theorem Dyadic.ratio_pos {d : Dyadic} (h : d.mantissa ≠ 0) : 0 < d.ratio.1 ∧ 0 < d.ratio.2 :=
  ⟨Nat.mul_pos (Nat.pos_of_ne_zero h) (Nat.pow_pos (by decide)), Nat.pow_pos (by decide)⟩

theorem isNumberText_display (x : Float) : IsNumberText (display x).toList := by
  unfold display
  dsimp only
  rw [String.toList_ofList]
  generalize Dyadic.ofFloat x = d
  have hsize : IsMagnitude (if d.mantissa = 0 then ['0'] else
      layout (stripZeros (Nat.toDigits 10 (roundDisplay d.ratio.1 d.ratio.2).1))
        (roundDisplay d.ratio.1 d.ratio.2).2) := by
    split
    · exact IsDigits.isMagnitude ⟨by simp, by simp⟩
    · rename_i hzero
      obtain ⟨hnum, hden⟩ := d.ratio_pos hzero
      exact isMagnitude_layout (isDigits_stripZeros (roundDisplay_pos hnum hden)) _
  cases d.negative with
  | true => exact .negative hsize
  | false => exact .positive hsize

theorem isNumberText_int (n : Int) : IsNumberText (toString n).toList := by
  have hnat (m : Nat) : IsMagnitude (toString m).toList := by
    rw [Nat.toString_eq_ofList_toDigits, String.toList_ofList]
    exact (isDigits_toDigits m).isMagnitude
  cases n with
  | ofNat m => exact .positive (hnat m)
  | negSucc m =>
    rw [show toString (Int.negSucc m) = "-" ++ toString (m + 1) from rfl, String.toList_append]
    exact .negative (hnat (m + 1))

theorem IsDigits.count_point {cs : List Char} (h : IsDigits cs) : cs.count '.' = 0 := by
  rw [List.count_eq_zero]
  intro hm
  exact absurd (h.digit '.' hm) (by decide)

/-- The digits before and behind the point are the mantissa. -/
theorem isMantissa_of_isFraction {whole fraction : List Char} (hwhole : IsDigits whole)
    (hfraction : IsFraction fraction) : IsMantissa (whole ++ fraction) := by
  cases hfraction with
  | none =>
    rw [List.append_nil]
    exact ⟨fun c hc => Or.inl (hwhole.digit c hc), by rw [hwhole.count_point]; omega⟩
  | @some digits hdigits =>
    constructor
    · intro c hc
      rw [List.mem_append, List.mem_cons] at hc
      rcases hc with hc | rfl | hc
      · exact Or.inl (hwhole.digit c hc)
      · exact Or.inr rfl
      · exact Or.inl (hdigits.digit c hc)
    · rw [List.count_append, List.count_cons_self, hwhole.count_point, hdigits.count_point]

theorem isExponent_of_isPower {sign : Char} {digits : List Char} (hsign : sign ∈ ['+', '-'])
    (hdigits : IsDigits digits) : ∃ negative, IsExponent negative digits ('E' :: sign :: digits) := by
  simp only [List.mem_cons, List.not_mem_nil, or_false] at hsign
  rcases hsign with rfl | rfl
  · exact ⟨false, .mk .plus hdigits.ne_nil hdigits.digit⟩
  · exact ⟨true, .mk .minus hdigits.ne_nil hdigits.digit⟩

theorem exists_written_of_isMagnitude {negative : Bool} {sign cs : List Char} (hsign : IsSign negative sign)
    (h : IsMagnitude cs) : ∃ n, Written n (sign ++ cs) := by
  cases h with
  | @mk whole fraction power hwhole hfraction hpower =>
    have hmantissa := isMantissa_of_isFraction hwhole hfraction
    have hdigit : ∃ c ∈ whole ++ fraction, c.isDigit = true := by
      obtain ⟨c, cs, rfl⟩ := List.exists_cons_of_ne_nil hwhole.ne_nil
      exact ⟨c, by simp, hwhole.digit c (by simp)⟩
    cases hpower with
    | none =>
      rw [List.append_nil]
      exact ⟨_, .plain hsign hmantissa hdigit⟩
    | some hpower hdigits =>
      obtain ⟨exponentNegative, hexponent⟩ := isExponent_of_isPower hpower hdigits
      rw [← List.append_assoc]
      exact ⟨_, .scaled hsign hmantissa hdigit hexponent⟩

theorem exists_written_of_isNumberText {cs : List Char} (h : IsNumberText cs) : ∃ n, Written n cs := by
  cases h with
  | positive hsize => exact exists_written_of_isMagnitude .none hsize
  | negative hsize => exact exists_written_of_isMagnitude .minus hsize

/-- The text of a number is in normal form already, and it is a numeral. -/
theorem exists_numeral_of_isNumberText {text : String} (h : IsNumberText text.toList) :
    ∃ n, Numeral.ofWord? text = some n := by
  obtain ⟨n, hwritten⟩ := exists_written_of_isNumberText h
  have hread := ofChars_of_written hwritten
  have hchars := ofChars_chars hread
  have hcomma : ',' ∉ text.toList := by
    intro hm
    exact absurd (hchars ',' hm) (by decide)
  have hmark (c : Char) (hc : c ∈ text.toList) : normalizeMark c = c := by
    unfold normalizeMark
    rw [if_neg]
    intro he
    rw [Bool.or_eq_true, decide_eq_true_eq, decide_eq_true_eq] at he
    rcases he with rfl | rfl
    · exact absurd (hchars _ hc) (by decide)
    · exact absurd (hchars _ hc) (by decide)
  refine ⟨n, ?_⟩
  rw [Numeral.ofWord?, ← (unified_iff _ _).mp (.plain hcomma), List.map_congr_left hmark, List.map_id']
  exact hread

end Keystroke.Number

namespace Keystroke.Constant

open Keystroke.Number

theorem isNumberText_numeral {value : Value} {text : String} (h : value.numeral = .ok text) :
    IsNumberText text.toList := by
  cases value with
  | int n =>
    obtain rfl := Except.ok.inj h
    exact isNumberText_int n
  | float x =>
    rw [Value.numeral] at h
    split_ifs at h
    obtain rfl := Except.ok.inj h
    exact isNumberText_display x
  | none | bool | module | function => simp [Value.numeral] at h

theorem isNumberText_compute {expression text : String} (h : compute expression = .ok text) :
    IsNumberText text.toList := by
  -- All that can go wrong comes before the text of the value.
  unfold compute at h
  split at h
  · simp at h
  split at h
  · simp at h
  split at h
  · simp at h
  split at h
  · simp at h
  · exact isNumberText_numeral h

/-- What an expression is worked out to is the text of a number. -/
theorem isNumberText_evaluate {expression text : String} (h : evaluate expression = .ok text) :
    IsNumberText text.toList := by
  unfold evaluate at h
  split at h
  · rename_i numeral hnumeral
    obtain rfl := Except.ok.inj h
    exact isNumberText_compute hnumeral
  · simp at h

end Keystroke.Constant
