import Keystroke.Proofs.Numerals

/-! The grammar of numerals, apart from how they are read: a sign, digits with at most one point, and an exponent
behind its mark; or an exponent alone. Before that the separators and marks of a word are written in one way, in
which the place of the first comma and of the first point tells the decimal separator from the grouping one. -/
namespace Keystroke.Statement.Numeral

/-- The ways to write a sign, and whether it is that of a negative number. -/
inductive IsSign : Bool → List Char → Prop
  | none : IsSign false []
  | plus : IsSign false ['+']
  | minus : IsSign true ['-']

/-- Digits with at most one point. -/
structure IsMantissa (cs : List Char) : Prop where
  chars : ∀ c ∈ cs, c.isDigit = true ∨ c = '.'
  points : cs.count '.' ≤ 1

/-- An exponent that is not left out: the mark, a sign, and digits. -/
inductive IsExponent (negative : Bool) (digits : List Char) : List Char → Prop
  | mk {sign : List Char} : IsSign negative sign → digits ≠ [] → (∀ c ∈ digits, c.isDigit = true) →
    IsExponent negative digits ('E' :: (sign ++ digits))

/-- How a numeral is written. Its mantissa has a digit, unless it is an exponent and nothing else. -/
inductive Written : Numeral → List Char → Prop
  | plain {negative : Bool} {sign mantissa : List Char} : IsSign negative sign → IsMantissa mantissa →
    (∃ c ∈ mantissa, c.isDigit = true) →
    Written { negative := negative, mantissa := String.ofList mantissa } (sign ++ mantissa)
  | scaled {negative exponentNegative : Bool} {sign mantissa digits exponent : List Char} :
    IsSign negative sign → IsMantissa mantissa → (∃ c ∈ mantissa, c.isDigit = true) →
    IsExponent exponentNegative digits exponent →
    Written ⟨negative, String.ofList mantissa, String.ofList digits, exponentNegative⟩
      (sign ++ mantissa ++ exponent)
  | bare {exponentNegative : Bool} {digits exponent : List Char} :
    IsExponent exponentNegative digits exponent →
    Written { exponent := String.ofList digits, exponentNegative := exponentNegative } exponent

/-- The separators of a text written in one way. Without a comma it stays as it is. If a comma stands before the
first point, commas group and are dropped; if not, points do, and commas are written as points. -/
inductive Unified (cs : List Char) : List Char → Prop
  | plain : ',' ∉ cs → Unified cs cs
  | grouped {front back : List Char} : cs = front ++ '.' :: back → '.' ∉ front → ',' ∈ front →
    Unified cs (cs.filter (· ≠ ','))
  | decimal : ',' ∈ cs → (∀ front back, cs = front ++ '.' :: back → '.' ∉ front → ',' ∉ front) →
    Unified cs ((cs.filter (· ≠ '.')).map fun c => if c = ',' then '.' else c)

/-- A word with its separators written in one way and a capital E for every mark of an exponent. -/
def Normalized (word : String) (text : List Char) : Prop :=
  ∃ cs, Unified word.toList cs ∧ text = cs.map fun c => if c ∈ ['e', 'ᴇ'] then 'E' else c

/-- The first separator is a comma that a point follows exactly if a comma stands before the first point. -/
theorem comma_first_iff (cs : List Char) :
    (cs.contains '.' && cs.find? isSeparator == some ',') = true ↔
      ∃ front back, cs = front ++ '.' :: back ∧ '.' ∉ front ∧ ',' ∈ front := by
  rw [Bool.and_eq_true, List.contains_iff_mem, beq_iff_eq, List.find?_eq_some_iff_append]
  constructor
  · rintro ⟨hdot, -, before, after, rfl, hbefore⟩
    have hfree : '.' ∉ before := by
      intro hm
      exact absurd (hbefore '.' hm) (by decide)
    have hafter : '.' ∈ after := by simpa [hfree] using hdot
    obtain ⟨middle, back, rfl, hmiddle⟩ := List.eq_append_cons_of_mem hafter
    exact ⟨before ++ ',' :: middle, back, by simp, by simp [hfree, hmiddle], by simp⟩
  · rintro ⟨front, back, rfl, hdot, hcomma⟩
    obtain ⟨before, middle, rfl, hbefore⟩ := List.eq_append_cons_of_mem hcomma
    refine ⟨by simp, by decide, before, middle ++ '.' :: back, by simp, ?_⟩
    intro c hc
    have hne : c ≠ '.' ∧ c ≠ ',' := by
      constructor
      · rintro rfl
        exact hdot (by simp [hc])
      · rintro rfl
        exact hbefore hc
    simp [isSeparator, hne.1, hne.2]

theorem unified_iff (cs text : List Char) : Unified cs text ↔ text = normalizePoint cs := by
  have hfirst := comma_first_iff cs
  unfold normalizePoint
  constructor
  · intro h
    cases h with
    | plain hcomma => rw [if_pos (by simpa using hcomma)]
    | @grouped front back hsplit hdot hcomma =>
      have hmem : ',' ∈ cs := by simp [hsplit, hcomma]
      rw [if_neg (by simpa using hmem), if_pos (hfirst.mpr ⟨front, back, hsplit, hdot, hcomma⟩)]
    | decimal hcomma hnone =>
      rw [if_neg (by simpa using hcomma), if_neg]
      intro h
      obtain ⟨front, back, hsplit, hdot, hfront⟩ := hfirst.mp h
      exact hnone front back hsplit hdot hfront
  · rintro rfl
    split_ifs with hcomma hgroup
    · exact .plain (by simpa using hcomma)
    · obtain ⟨front, back, hsplit, hdot, hfront⟩ := hfirst.mp hgroup
      exact .grouped hsplit hdot hfront
    · refine .decimal (by simpa using hcomma) ?_
      intro front back hsplit hdot hfront
      exact hgroup (hfirst.mpr ⟨front, back, hsplit, hdot, hfront⟩)

/-- Every word has one normal form, the one that is read. -/
theorem normalized_iff (word : String) (text : List Char) :
    Normalized word text ↔ text = (normalizePoint word.toList).map normalizeMark := by
  have hmark : (fun c : Char => if c ∈ ['e', 'ᴇ'] then 'E' else c) = normalizeMark := by
    funext c
    simp [normalizeMark]
  unfold Normalized
  rw [hmark]
  constructor
  · rintro ⟨cs, hcs, rfl⟩
    rw [(unified_iff _ _).mp hcs]
  · rintro rfl
    exact ⟨_, (unified_iff _ _).mpr rfl, rfl⟩

theorem splitSign_isSign (cs : List Char) : ∃ sign, IsSign ((splitSign cs).1 == some '-') sign ∧
    cs = sign ++ (splitSign cs).2 ∧ ((splitSign cs).1 = none → sign = []) := by
  unfold splitSign
  split
  · exact ⟨['+'], .plus, rfl, by simp⟩
  · exact ⟨['-'], .minus, rfl, by simp⟩
  · exact ⟨[], .none, rfl, by simp⟩

/-- What stands behind a sign, or where none is given: no second sign. -/
theorem splitSign_append_of_isSign {negative : Bool} {sign rest : List Char} (h : IsSign negative sign)
    (hrest : ∀ c ∈ rest.head?, c ≠ '+' ∧ c ≠ '-') :
    ((splitSign (sign ++ rest)).1 == some '-') = negative ∧ (splitSign (sign ++ rest)).2 = rest ∧
      ((splitSign (sign ++ rest)).1 = none ↔ sign = []) := by
  cases h with
  | plus => simp [splitSign]
  | minus => simp [splitSign]
  | none =>
    rw [List.nil_append]
    unfold splitSign
    split
    · exact absurd rfl (hrest '+' (by simp)).1
    · exact absurd rfl (hrest '-' (by simp)).2
    · simp

theorem splitMantissa_isMantissa (cs : List Char) : IsMantissa (splitMantissa cs).1 := by
  refine ⟨splitMantissa_chars cs, ?_⟩
  have hnone (cs : List Char) : (cs.takeWhile Char.isDigit).count '.' = 0 := by
    rw [List.count_eq_zero]
    intro h
    exact absurd (List.all_eq_true.mp List.all_takeWhile _ h) (by decide)
  unfold splitMantissa
  dsimp only
  split
  · apply Nat.le_of_eq
    rw [List.count_append, List.count_cons_self, hnone, hnone]
  · rw [hnone]
    omega

/-- The digits before the point and those behind it, if there is one. -/
theorem IsMantissa.split {cs : List Char} (h : IsMantissa cs) : (∀ c ∈ cs, c.isDigit = true) ∨
    ∃ whole fraction, cs = whole ++ '.' :: fraction ∧ (∀ c ∈ whole, c.isDigit = true) ∧
      ∀ c ∈ fraction, c.isDigit = true := by
  have hdigits (part : List Char) (hpart : part ⊆ cs) (hfree : '.' ∉ part) : ∀ c ∈ part, c.isDigit = true := by
    intro c hc
    apply (h.chars c (hpart hc)).resolve_right
    rintro rfl
    exact hfree hc
  by_cases hdot : '.' ∈ cs
  · right
    obtain ⟨whole, fraction, rfl, hwhole⟩ := List.eq_append_cons_of_mem hdot
    have hfraction : '.' ∉ fraction := by
      have hpoints := h.points
      rw [List.count_append, List.count_cons_self] at hpoints
      rw [← List.count_eq_zero]
      omega
    exact ⟨whole, fraction, rfl, hdigits whole (by simp) hwhole, hdigits fraction (by simp) hfraction⟩
  · exact Or.inl (hdigits cs (List.Subset.refl cs) hdot)

theorem span_digits {cs rest : List Char} (hcs : ∀ c ∈ cs, c.isDigit = true)
    (hrest : ∀ c ∈ rest.head?, c.isDigit = false) :
    (cs ++ rest).takeWhile Char.isDigit = cs ∧ (cs ++ rest).dropWhile Char.isDigit = rest := by
  rw [List.takeWhile_append_of_pos hcs, List.dropWhile_append_of_pos hcs]
  cases rest with
  | nil => simp
  | cons c rest => simp [hrest c rfl]

/-- A mantissa is taken as a whole, if what follows can not go on with it. -/
theorem splitMantissa_of_isMantissa {cs rest : List Char} (h : IsMantissa cs)
    (hrest : ∀ c ∈ rest.head?, c.isDigit = false ∧ c ≠ '.') : splitMantissa (cs ++ rest) = (cs, rest) := by
  have hdigit : ∀ c ∈ rest.head?, c.isDigit = false := fun c hc => (hrest c hc).1
  unfold splitMantissa
  dsimp only
  rcases h.split with hall | ⟨whole, fraction, rfl, hwhole, hfraction⟩
  · obtain ⟨htake, hdrop⟩ := span_digits hall hdigit
    rw [htake, hdrop]
    split
    · exact absurd rfl (hrest '.' (by simp)).2
    · rfl
  · have hpoint : ∀ c ∈ ('.' :: (fraction ++ rest)).head?, c.isDigit = false := by
      rintro c ⟨⟩
      decide
    obtain ⟨htake, hdrop⟩ := span_digits hwhole hpoint
    obtain ⟨hback, hend⟩ := span_digits hfraction hdigit
    rw [List.append_assoc, List.cons_append, htake, hdrop]
    simp only [hback, hend]

theorem isDigit_ne_sign {c : Char} (h : c.isDigit = true) : c ≠ '+' ∧ c ≠ '-' := by
  constructor
  · rintro rfl
    exact absurd h (by decide)
  · rintro rfl
    exact absurd h (by decide)

theorem readExponent_iff (cs digits : List Char) (negative : Bool) :
    readExponent? cs = some (negative, digits) ↔
      cs = [] ∧ negative = false ∧ digits = [] ∨ IsExponent negative digits cs := by
  constructor
  · intro h
    unfold readExponent? at h
    split at h
    · left
      obtain ⟨hnegative, hdigits⟩ : false = negative ∧ [] = digits := by simpa using h
      exact ⟨rfl, hnegative.symm, hdigits.symm⟩
    · rename_i rest
      right
      obtain ⟨sign, hsign, hsplit, -⟩ := splitSign_isSign rest
      dsimp only at h
      split_ifs at h with hdigits
      obtain ⟨hnegative, hrest⟩ := Prod.mk.inj (Option.some.inj h)
      rw [hnegative] at hsign
      rw [hrest] at hsplit hdigits
      rw [Bool.and_eq_true, List.all_eq_true] at hdigits
      rw [hsplit]
      exact .mk hsign (by simpa using hdigits.1) hdigits.2
    · simp at h
  · rintro (⟨rfl, rfl, rfl⟩ | ⟨hsign, hne, hdigits⟩)
    · rfl
    · obtain ⟨hnegative, hrest, -⟩ := splitSign_append_of_isSign hsign fun c hc =>
        isDigit_ne_sign (hdigits c (List.mem_of_mem_head? hc))
      have hall : (!digits.isEmpty && digits.all Char.isDigit) = true := by simpa [hne] using hdigits
      rw [readExponent?]
      dsimp only
      rw [hrest, if_pos hall, hnegative]

theorem IsExponent.digits_ne_nil {negative : Bool} {digits cs : List Char} (h : IsExponent negative digits cs) :
    digits ≠ [] := by
  cases h with
  | mk _ hne _ => exact hne

theorem IsExponent.unsigned {negative : Bool} {digits cs : List Char} (h : IsExponent negative digits cs) :
    ∀ c ∈ cs.head?, c ≠ '+' ∧ c ≠ '-' := by
  cases h with
  | mk => simp

theorem IsExponent.stops {negative : Bool} {digits cs : List Char} (h : IsExponent negative digits cs) :
    ∀ c ∈ cs.head?, c.isDigit = false ∧ c ≠ '.' := by
  cases h with
  | mk =>
    rintro c ⟨⟩
    decide

theorem written_of_ofChars {cs : List Char} {n : Numeral} (h : ofChars? cs = some n) : Written n cs := by
  obtain ⟨sign, hsign, hsplit, hnone⟩ := splitSign_isSign cs
  unfold ofChars? at h
  dsimp only at h
  generalize splitSign cs = front at h hsign hsplit hnone
  have hmantissa := splitMantissa_isMantissa front.2
  have happend := splitMantissa_append front.2
  generalize splitMantissa front.2 = parts at h hmantissa happend
  rw [hsplit, ← happend]
  split at h
  · simp at h
  · rename_i exponentNegative digits hread
    split_ifs at h with hdigit
    obtain rfl := Option.some.inj h
    rw [Bool.or_eq_true, List.any_eq_true] at hdigit
    rcases (readExponent_iff _ _ _).mp hread with ⟨hend, rfl, rfl⟩ | hexponent
    · -- Nothing stands behind the mantissa, so it has to have a digit.
      rw [hend, List.append_nil]
      exact .plain hsign hmantissa (hdigit.resolve_right (by simp))
    · rcases hdigit with hsome | hbare
      · rw [← List.append_assoc]
        exact .scaled hsign hmantissa hsome hexponent
      · simp only [Bool.and_eq_true, Option.isNone_iff_eq_none, List.isEmpty_iff] at hbare
        obtain ⟨⟨hunsigned, hempty⟩, -⟩ := hbare
        rw [hnone hunsigned, hempty, hunsigned]
        exact .bare hexponent

theorem ofChars_of_parts {negative exponentNegative : Bool} {sign mantissa rest digits : List Char}
    (hsign : IsSign negative sign) (hmantissa : IsMantissa mantissa)
    (hhead : ∀ c ∈ (mantissa ++ rest).head?, c ≠ '+' ∧ c ≠ '-')
    (hrest : ∀ c ∈ rest.head?, c.isDigit = false ∧ c ≠ '.')
    (hread : readExponent? rest = some (exponentNegative, digits))
    (hdigit : (∃ c ∈ mantissa, c.isDigit = true) ∨ sign = [] ∧ mantissa = [] ∧ digits ≠ []) :
    ofChars? (sign ++ (mantissa ++ rest)) =
      some ⟨negative, String.ofList mantissa, String.ofList digits, exponentNegative⟩ := by
  obtain ⟨hnegative, hafter, hnone⟩ := splitSign_append_of_isSign hsign hhead
  have hkept : (mantissa.any Char.isDigit || ((splitSign (sign ++ (mantissa ++ rest))).1.isNone &&
      mantissa.isEmpty && !digits.isEmpty)) = true := by
    rw [Bool.or_eq_true, List.any_eq_true]
    refine hdigit.imp_right ?_
    rintro ⟨hunsigned, hempty, hne⟩
    rw [hnone.mpr hunsigned]
    simp [hempty, hne]
  unfold ofChars?
  dsimp only
  rw [hafter, splitMantissa_of_isMantissa hmantissa hrest]
  dsimp only
  rw [hread]
  dsimp only
  rw [if_pos hkept, hnegative]

theorem IsMantissa.head {cs : List Char} (h : IsMantissa cs) : ∀ c ∈ cs.head?, c ≠ '+' ∧ c ≠ '-' := by
  intro c hc
  rcases h.chars c (List.mem_of_mem_head? hc) with hdigit | rfl
  · exact isDigit_ne_sign hdigit
  · decide

theorem ofChars_of_written {cs : List Char} {n : Numeral} (h : Written n cs) : ofChars? cs = some n := by
  cases h with
  | @plain negative sign mantissa hsign hmantissa hdigit =>
    have hparts : ofChars? (sign ++ (mantissa ++ [])) =
        some ⟨negative, String.ofList mantissa, String.ofList [], false⟩ :=
      ofChars_of_parts hsign hmantissa (by simpa using hmantissa.head) (by simp) rfl (Or.inl hdigit)
    simpa using hparts
  | @scaled negative exponentNegative sign mantissa digits exponent hsign hmantissa hdigit hexponent =>
    have hne : mantissa ≠ [] := by
      rintro rfl
      simp at hdigit
    have hhead : ∀ c ∈ (mantissa ++ exponent).head?, c ≠ '+' ∧ c ≠ '-' := by
      rw [List.head?_append_of_ne_nil _ hne]
      exact hmantissa.head
    rw [List.append_assoc]
    exact ofChars_of_parts hsign hmantissa hhead hexponent.stops
      ((readExponent_iff _ _ _).mpr (Or.inr hexponent)) (Or.inl hdigit)
  | @bare exponentNegative digits exponent hexponent =>
    have hempty : IsMantissa [] := ⟨by simp, by simp⟩
    exact ofChars_of_parts .none hempty hexponent.unsigned hexponent.stops
      ((readExponent_iff _ _ _).mpr (Or.inr hexponent)) (Or.inr ⟨rfl, rfl, hexponent.digits_ne_nil⟩)

/-- A numeral takes at least one key. -/
theorem Written.tokens_ne_nil {n : Numeral} {cs : List Char} (h : Written n cs) : n.tokens ≠ [] := by
  have hmantissa {mantissa : List Char} (hdigit : ∃ c ∈ mantissa, c.isDigit = true) : mantissa ≠ [] := by
    rintro rfl
    simp at hdigit
  cases h with
  | plain _ _ hdigit => simp [tokens, hmantissa hdigit]
  | scaled _ _ hdigit _ => simp [tokens, hmantissa hdigit]
  | bare hexponent => simp [tokens, hexponent.digits_ne_nil]

/-- A word is read as a numeral exactly if its normal form is written as one, with the parts that are written;
any other word is none. -/
theorem numerals_follow_grammar (word : String) : ∃ text,
    (∀ other, Normalized word other ↔ other = text) ∧
    (∀ n, ofWord? word = some n ↔ Written n text) ∧
    (ofWord? word = none ↔ ∀ n, ¬ Written n text) := by
  have hiff (n : Numeral) : ofWord? word = some n ↔
      Written n ((normalizePoint word.toList).map normalizeMark) :=
    ⟨written_of_ofChars, ofChars_of_written⟩
  refine ⟨_, normalized_iff word, hiff, ?_⟩
  rw [Option.eq_none_iff_forall_ne_some]
  exact forall_congr' fun n => not_congr (hiff n)

end Keystroke.Statement.Numeral
