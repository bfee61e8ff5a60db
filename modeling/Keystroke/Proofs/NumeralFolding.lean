import Keystroke.Proofs.Folding
import Keystroke.Proofs.Numerals

/-! Words that fold to numerals. Folding raises the small mark of an exponent and leaves the other characters of
numerals as they are, and no other character, alone or composed with marks, ever turns into one of them. -/
namespace Keystroke.Text
set_option maxRecDepth 20000

/-- The characters that numerals fold to. -/
def numeralChars : List Char :=
  "+-.,0123456789Eᴇ".toList

/-- Folding as far as characters of numerals are concerned. -/
def raiseMark (c : Char) : Char :=
  if c = 'e' then 'E' else c

/-- A character that numerals are not written with. -/
def Foreign (c : Char) : Prop :=
  c ∉ 'e' :: numeralChars

theorem numeralChars_fold : (('e' :: numeralChars).all fun c =>
    leadingMarks c == 0 && upper (compose (order (decomposeChar c))) == [raiseMark c]) = true := by
  decide

/-- A numeral folds character by character. -/
theorem foldChars_of_numeral {cs : List Char} (h : ∀ c ∈ cs, ¬ Foreign c) :
    foldChars cs = cs.map raiseMark := by
  have hchar (c : Char) (hc : c ∈ cs) :
      leadingMarks c = 0 ∧ upper (compose (order (decomposeChar c))) = [raiseMark c] := by
    have hall := List.all_eq_true.mp numeralChars_fold c (not_not.mp (h c hc))
    simpa using hall
  rw [foldChars_of_starters cs fun c hc => (hchar c hc).1]
  calc
    _ = cs.flatMap fun c => [raiseMark c] := List.flatMap_congr fun c hc => (hchar c hc).2
    _ = cs.map raiseMark := List.flatMap_pure_eq_map raiseMark cs

theorem numeralChars_toNat : (numeralChars.all fun c =>
    0x2B ≤ c.toNat && c.toNat ≤ 0x45 && c.toNat != 0x3B || c.toNat == 0x1D07) = true := by
  decide

theorem not_mem_numeralChars {c : Char}
    (h : c.toNat < 0x2B ∨ c.toNat = 0x3B ∨ 0x45 < c.toNat ∧ c.toNat ≠ 0x1D07) : c ∉ numeralChars := by
  intro hc
  have hcode := List.all_eq_true.mp numeralChars_toNat c hc
  simp only [Bool.and_eq_true, Bool.or_eq_true, decide_eq_true_eq, bne_iff_ne, beq_iff_eq] at hcode
  omega

theorem foreign_iff {c : Char} : Foreign c ↔ c ≠ 'e' ∧ c ∉ numeralChars := by
  rw [Foreign, List.mem_cons, not_or]

theorem foreign_of_toNat {c : Char}
    (h : c.toNat = 0x3B ∨ 0x45 < c.toNat ∧ c.toNat ≠ 0x65 ∧ c.toNat ≠ 0x1D07) : Foreign c := by
  refine foreign_iff.mpr ⟨?_, not_mem_numeralChars (by omega)⟩
  rintro rfl
  simp at h

theorem asciiForeign_upper : ((List.range 0x80).all fun n =>
    ('e' :: numeralChars).contains (Char.ofNat n) || !numeralChars.contains (Char.ofNat n).toUpper) = true := by
  decide

theorem upperSequences_foreign : (upperSequences.all fun entry => entry.2.any fun code =>
    !numeralChars.contains (Char.ofNat code)) = true := by
  decide

theorem upperRuns_foreign : ∀ run ∈ upperRuns, run.last < 0x80 ∨
    (0x45 < run.image ∧ run.image + (run.last - run.first) < 0x1D07) ∨
    (0x1D07 < run.image ∧ run.image + (run.last - run.first) < 0xD800) ∨
    (0xE000 ≤ run.image ∧ run.image + (run.last - run.first) < 0x110000) := by
  decide

/-- Upper case does not turn another character into one of a numeral. -/
theorem upperChar_foreign {c : Char} (hc : Foreign c) : ∃ d ∈ upperChar c, d ∉ numeralChars := by
  by_cases hlow : c.toNat < 0x80
  · refine ⟨c.toUpper, by simp [upperChar, hlow], ?_⟩
    have hall := List.all_eq_true.mp asciiForeign_upper c.toNat (List.mem_range.mpr hlow)
    rw [Char.ofNat_toNat, Bool.or_eq_true, List.contains_iff_mem] at hall
    simpa using hall.resolve_left hc
  · rcases upperChar_cases c (by omega) with ⟨image, himage, he⟩ | ⟨run, hrun, image, himage, he⟩ | ⟨-, -, he⟩
    · obtain ⟨code, hcode, hnot⟩ := List.any_eq_true.mp (List.all_eq_true.mp upperSequences_foreign _ himage)
      exact ⟨Char.ofNat code, he ▸ List.mem_map_of_mem hcode, by simpa using hnot⟩
    · obtain ⟨⟨hfirst, hlast⟩, -, rfl⟩ := CaseRun.imageOf_eq_some himage
      refine ⟨_, he ▸ List.mem_singleton.mpr rfl, ?_⟩
      -- The images of a run are neighbours, and no run of images meets the characters of numerals.
      have hrange := upperRuns_foreign run hrun
      apply not_mem_numeralChars
      rw [toNat_ofNat _ (by unfold Nat.isValidChar; omega)]
      omega
    · exact ⟨c, he ▸ List.mem_singleton.mpr rfl, (foreign_iff.mp hc).2⟩

theorem pairMappings_ne_mark : ∀ m ∈ pairMappings, m.1 ≠ 0x1D07 ∧ m.2.2 ≠ 0x1D07 := by
  decide

theorem singletonMappings_foreign : ∀ m ∈ singletonMappings, m.2.isValidChar ∧
    (m.2 = 0x3B ∨ 0x45 < m.2 ∧ m.2 ≠ 0x65 ∧ m.2 ≠ 0x1D07) := by
  decide

theorem composite_foreign (base c whole : Char)
    (h : composite? base c = some whole ∨ hangulComposite? base c = some whole) : Foreign whole := by
  rcases composite_cases h with ⟨m, hm, rfl⟩ | ⟨code, h1, h2, rfl⟩
  · obtain ⟨⟨hv, hl⟩, -⟩ := pairMappings_leave_ascii m hm
    have hne := (pairMappings_ne_mark m hm).1
    simp only [leavesAscii, Bool.and_eq_true, decide_eq_true_eq] at hl
    apply foreign_of_toNat
    rw [toNat_ofNat _ hv]
    omega
  · apply foreign_of_toNat
    rw [toNat_ofNat _ (Or.inl (by omega))]
    omega

theorem decomposeWithin_foreign (depth code : Nat) (h : Foreign (Char.ofNat code)) :
    ∃ n ∈ decomposeWithin depth code, Foreign (Char.ofNat n) := by
  induction depth generalizing code with
  | zero => exact ⟨code, by simp [decomposeWithin], h⟩
  | succ depth ih =>
    unfold decomposeWithin
    split
    · -- The mark of a pair is kept to the end.
      rename_i base mark hm
      have hpair := mem_of_lookup hm
      obtain ⟨hv, hl⟩ : mark.isValidChar ∧ leavesAscii mark := (pairMappings_leave_ascii _ hpair).2
      have hne : mark ≠ 0x1D07 := (pairMappings_ne_mark _ hpair).2
      simp only [leavesAscii, Bool.and_eq_true, decide_eq_true_eq] at hl
      refine ⟨mark, by simp, foreign_of_toNat ?_⟩
      rw [toNat_ofNat _ hv]
      omega
    · split
      · rename_i other ho
        obtain ⟨hv, hcode⟩ := singletonMappings_foreign _ (mem_of_lookup ho)
        apply ih other
        apply foreign_of_toNat
        rwa [toNat_ofNat _ hv]
      · exact ⟨code, by simp, h⟩

theorem decomposeChar_foreign {c : Char} (h : Foreign c) : ∃ d ∈ decomposeChar c, Foreign d := by
  unfold decomposeChar
  split_ifs with hlow hhangul
  · exact ⟨c, by simp, h⟩
  · rw [Bool.and_eq_true, decide_eq_true_eq, decide_eq_true_eq] at hhangul
    obtain ⟨n, hn⟩ : ∃ n, n ∈ hangulParts c.toNat := by
      refine ⟨leadBase + (c.toNat - hangulBase) / 588, ?_⟩
      unfold hangulParts
      dsimp only
      split_ifs <;> simp
    have hrange := hangulParts_block hhangul n hn
    refine ⟨Char.ofNat n, List.mem_map_of_mem hn, foreign_of_toNat ?_⟩
    rw [toNat_ofNat _ (Or.inl (by omega))]
    omega
  · rw [← Char.ofNat_toNat c] at h
    obtain ⟨n, hn, hf⟩ := decomposeWithin_foreign 3 c.toNat h
    exact ⟨Char.ofNat n, List.mem_map_of_mem hn, hf⟩

namespace Composing

section Composites

variable {P : Char → Prop}
  (hj : ∀ base c whole, composite? base c = some whole ∨ hangulComposite? base c = some whole → P whole)
include hj

/-- What was once joined stays in the text, or is joined to something else again. -/
theorem kept_composite : Kept (fun _ => True) fun text => ∃ c ∈ text.toList, P c where
  rebase := by
    intro text h
    rwa [toList_rebase]
  push := by
    rintro text c ⟨d, hd, hP⟩ -
    exact ⟨d, by simp [toList_push, hd], hP⟩
  join := by
    intro text c whole _ hw
    exact ⟨whole, by simp [toList], hj _ _ _ hw⟩

theorem toList_add {join? : Char → Char → Option Char} (hjoin : join? = composite? ∨ join? = hangulComposite?)
    (text : Composing) (c : Char) :
    (text.add join? c).toList = text.toList ++ [c] ∨ ∃ d ∈ (text.add join? c).toList, P d := by
  obtain ⟨start, hs, hadd⟩ := add_cases join? text c
  have hstart : start.toList = text.toList := by
    rcases hs with rfl | rfl
    · rfl
    · exact toList_rebase text
  rcases hadd with hadd | ⟨whole, hw, hadd⟩
  · left
    rw [hadd, toList_push, hstart]
  · right
    refine ⟨whole, by simp [hadd, toList], hj start.base c whole ?_⟩
    rcases hjoin with rfl | rfl
    · exact Or.inl hw
    · exact Or.inr hw

theorem toList_foldl (cs : List Char) (text : Composing) :
    (cs.foldl (add hangulComposite?) text).toList = text.toList ++ cs ∨
      ∃ d ∈ (cs.foldl (add hangulComposite?) text).toList, P d := by
  induction cs generalizing text with
  | nil => exact Or.inl (by simp)
  | cons c cs ih =>
    rw [List.foldl_cons]
    rcases toList_add hj (Or.inr rfl) text c with h | h
    · rw [← List.singleton_append, ← List.append_assoc, ← h]
      exact ih _
    · exact Or.inr ((kept_composite hj).foldl cs _ h fun _ _ => trivial)

/-- Characters are added as they are, unless two of them are joined. -/
theorem toList_addAll (cs : List Char) (text : Composing) :
    (text.addAll cs).toList = text.toList ++ cs ∨ ∃ d ∈ (text.addAll cs).toList, P d := by
  have hk := kept_composite hj
  induction cs generalizing text with
  | nil => exact Or.inl (by simp [addAll])
  | cons c cs ih =>
    unfold addAll
    split_ifs
    · exact toList_foldl hj (c :: cs) text
    · rcases toList_add hj (Or.inl rfl) text c with h | h
      · rw [← List.singleton_append, ← List.append_assoc, ← h]
        exact ih _
      · exact Or.inr (hk.addAll cs _ h fun _ _ => trivial)
    · rw [← List.singleton_append, ← List.append_assoc, ← toList_push]
      exact ih _

end Composites

end Composing

/-- Composition leaves a text as it is, unless a composed character comes into it. -/
theorem compose_foreign {cs : List Char} (h : ∃ c ∈ cs, Foreign c) : ∃ c ∈ compose cs, Foreign c := by
  cases cs with
  | nil => simp at h
  | cons c cs =>
    rcases Composing.toList_addAll composite_foreign cs ⟨[], c, []⟩ with hsame | hforeign
    · rw [compose, hsame]
      exact h
    · exact hforeign

/-- No character is lost when a text is cut into segments. -/
theorem mem_segments (run : Nat) (segment : List Char) {cs : List Char} {c : Char}
    (h : c ∈ segment ∨ c ∈ cs) : ∃ s ∈ segments run segment cs, c ∈ s := by
  induction cs generalizing run segment with
  | nil =>
    have hc : c ∈ segment := by simpa using h
    exact ⟨segment.reverse, by simp [segments], by simpa using hc⟩
  | cons d cs ih =>
    rw [List.mem_cons] at h
    have hnext (run : Nat) (hrest : c = d ∨ c ∈ cs) : ∃ s ∈ segments run [d] cs, c ∈ s :=
      ih run [d] (by simpa using hrest)
    unfold segments
    dsimp only
    -- The segment at hand is closed before the character, closed by a joiner, or goes on.
    split_ifs
    · rcases h with h | h
      · exact ⟨segment.reverse, by simp, by simpa using h⟩
      · obtain ⟨s, hs, hc⟩ := hnext (trailingMarks d) h
        exact ⟨s, by simp [hs], hc⟩
    · rcases h with h | h
      · exact ⟨(joiner :: segment).reverse, by simp, by simp [h]⟩
      · obtain ⟨s, hs, hc⟩ := hnext (leadingMarks d) h
        exact ⟨s, by simp [hs], hc⟩
    · apply ih
      rw [List.mem_cons]
      tauto

theorem normal_foreign {cs : List Char} (h : ∃ c ∈ cs, Foreign c) : ∃ c ∈ normal cs, Foreign c := by
  obtain ⟨c, hc, hf⟩ := h
  obtain ⟨s, hs, hcs⟩ := mem_segments 0 [] (Or.inr hc)
  obtain ⟨d, hd, hfd⟩ := decomposeChar_foreign hf
  have hordered : d ∈ order (s.flatMap decomposeChar) :=
    (order_perm _).mem_iff.mpr (List.mem_flatMap.mpr ⟨c, hcs, hd⟩)
  obtain ⟨e, he, hfe⟩ := compose_foreign ⟨d, hordered, hfd⟩
  exact ⟨e, List.mem_flatMap.mpr ⟨s, hs, he⟩, hfe⟩

/-- A text folds to characters of numerals exactly if it is written with these and the small mark. -/
theorem foldChars_numeral_iff (cs : List Char) :
    (∀ c ∈ foldChars cs, c ∈ numeralChars) ↔ ∀ c ∈ cs, ¬ Foreign c := by
  constructor
  · intro h c hc hf
    obtain ⟨d, hd, hfd⟩ := normal_foreign ⟨c, hc, hf⟩
    obtain ⟨e, he, hne⟩ := upperChar_foreign hfd
    exact hne (h e (List.mem_flatMap.mpr ⟨d, hd, he⟩))
  · intro h c hc
    rw [foldChars_of_numeral h] at hc
    obtain ⟨d, hd, rfl⟩ := List.mem_map.mp hc
    unfold raiseMark
    split_ifs with he
    · decide
    · exact (List.mem_cons.mp (not_not.mp (h d hd))).resolve_left he

end Keystroke.Text

namespace Keystroke.Statement.Numeral

open Keystroke.Text

theorem mem_numeralChars_of_isDigit {c : Char} (h : c.isDigit = true) : c ∈ numeralChars := by
  have hrange : 48 ≤ c.toNat ∧ c.toNat ≤ 57 := by
    simp only [Char.isDigit, Bool.and_eq_true, decide_eq_true_eq, UInt32.le_iff_toNat_le] at h
    exact h
  have hall : ∀ n < 10, Char.ofNat (48 + n) ∈ numeralChars := by decide
  have hc := hall (c.toNat - 48) (by omega)
  rwa [show 48 + (c.toNat - 48) = c.toNat by omega, Char.ofNat_toNat] at hc

theorem ofWord_not_foreign {word : String} {n : Numeral} (h : ofWord? word = some n) :
    ∀ c ∈ word.toList, ¬ Foreign c := by
  have hmarks : (['+', '-', '.', ',', 'E', 'e', 'ᴇ'].all fun c => ('e' :: numeralChars).contains c) = true := by
    decide
  intro c hc
  rw [Foreign, not_not]
  rcases ofWord_word_chars h c hc with hdigit | hmark
  · exact List.mem_cons_of_mem _ (mem_numeralChars_of_isDigit hdigit)
  · simpa using List.all_eq_true.mp hmarks c hmark

theorem raiseMark_eq_iff {c d : Char} (he : d ≠ 'E') (hs : d ≠ 'e') : raiseMark c = d ↔ c = d := by
  unfold raiseMark
  split_ifs with hc
  · subst hc
    exact ⟨fun h => absurd h.symm he, fun h => absurd h.symm hs⟩
  · rfl

theorem normalizeMark_raiseMark (c : Char) : normalizeMark (raiseMark c) = normalizeMark c := by
  unfold raiseMark
  split_ifs with hc
  · rw [hc]
    rfl
  · rfl

/-- The mark of the exponent plays no part in telling decimal from grouping separators. -/
theorem normalizePoint_raiseMark (cs : List Char) :
    normalizePoint (cs.map raiseMark) = (normalizePoint cs).map raiseMark := by
  have hcomma (c : Char) : raiseMark c = ',' ↔ c = ',' := raiseMark_eq_iff (by decide) (by decide)
  have hdot (c : Char) : raiseMark c = '.' ↔ c = '.' := raiseMark_eq_iff (by decide) (by decide)
  have hmem {d : Char} (hd : ∀ c, raiseMark c = d ↔ c = d) : (cs.map raiseMark).contains d = cs.contains d := by
    rw [Bool.eq_iff_iff, List.contains_iff_mem, List.contains_iff_mem, List.mem_map]
    simp [hd]
  have hfirst : ((cs.map raiseMark).find? isSeparator == some ',') = (cs.find? isSeparator == some ',') := by
    have hsep : isSeparator ∘ raiseMark = isSeparator := by
      funext c
      simp [isSeparator, hcomma, hdot]
    rw [List.find?_map, hsep, Bool.eq_iff_iff, beq_iff_eq, beq_iff_eq, Option.map_eq_some_iff]
    simp [hcomma]
  have hfilter {d : Char} (hd : ∀ c, raiseMark c = d ↔ c = d) :
      (cs.map raiseMark).filter (· ≠ d) = (cs.filter (· ≠ d)).map raiseMark := by
    rw [List.filter_map]
    congr 2
    funext c
    simp [hd]
  unfold normalizePoint
  rw [hmem hcomma, hmem hdot, hfirst, hfilter hcomma, hfilter hdot]
  split_ifs
  · rfl
  · rfl
  · rw [List.map_map, List.map_map]
    apply List.map_congr_left
    intro c _
    simp only [Function.comp_apply, hcomma]
    split_ifs
    · rfl
    · rfl

/-- Words that fold alike are the same numeral, or neither is one. -/
theorem ofWord_eq_of_fold {word word' : String} (h : fold word = fold word') :
    ofWord? word = ofWord? word' := by
  have hchars : foldChars word.toList = foldChars word'.toList := by
    rw [← fold_toList, h, fold_toList]
  have hiff : (∀ c ∈ word.toList, ¬ Foreign c) ↔ ∀ c ∈ word'.toList, ¬ Foreign c := by
    rw [← foldChars_numeral_iff, hchars, foldChars_numeral_iff]
  have hnone {word : String} (hw : ¬ ∀ c ∈ word.toList, ¬ Foreign c) : ofWord? word = none := by
    cases hn : ofWord? word with
    | none => rfl
    | some n => exact absurd (ofWord_not_foreign hn) hw
  -- A foreign character leaves its trace in the fold, so both words are written like numerals or neither is.
  by_cases hw : ∀ c ∈ word.toList, ¬ Foreign c
  · have hraised : word.toList.map raiseMark = word'.toList.map raiseMark := by
      rw [← foldChars_of_numeral hw, hchars, foldChars_of_numeral (hiff.mp hw)]
    have hnormal (word : String) : ofWord? word =
        ofChars? ((normalizePoint (word.toList.map raiseMark)).map normalizeMark) := by
      rw [normalizePoint_raiseMark, List.map_map, ofWord?]
      congr 2
      funext c
      exact (normalizeMark_raiseMark c).symm
    rw [hnormal word, hraised, ← hnormal word']
  · rw [hnone hw, hnone fun hw' => hw (hiff.mpr hw')]

end Keystroke.Statement.Numeral
