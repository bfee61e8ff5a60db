import Keystroke.Text.Fold
import Mathlib.Data.List.Basic

/-! Folding two words with a blank between them. The first word folds as it does alone; the second one does
unless it begins with a mark, which leans on the blank. -/
namespace Keystroke.Text
set_option maxRecDepth 20000

theorem mem_of_lookup {α β : Type} [BEq α] [LawfulBEq α] {entries : List (α × β)} {key : α} {value : β}
    (h : entries.lookup key = some value) : (key, value) ∈ entries := by
  obtain ⟨_, _, rfl, _⟩ := List.lookup_eq_some_iff.mp h
  simp

theorem segments_append_starter (run : Nat) (segment a b : List Char) (c : Char)
    (hc : leadingMarks c = 0) :
    segments run segment (a ++ c :: b) =
      segments run segment a ++ segments (trailingMarks c) [c] b := by
  induction a generalizing run segment with
  | nil => simp [segments, hc]
  | cons d a ih =>
    simp only [List.cons_append, segments]
    split_ifs <;> simp [ih]

theorem normal_starter (b : List Char) (c : Char) (hc : leadingMarks c = 0) :
    normal (c :: b) = (segments (trailingMarks c) [c] b).flatMap fun segment =>
      compose (order (segment.flatMap decomposeChar)) := by
  simp [normal, segments, hc, order, compose]

/-- A character that begins with no mark starts a segment, whatever stands before it. -/
theorem normal_append_starter (a b : List Char) (c : Char) (hc : leadingMarks c = 0) :
    normal (a ++ c :: b) = normal a ++ normal (c :: b) := by
  rw [normal_starter b c hc]
  simp [normal, segments_append_starter 0 [] a b c hc]

/-- A text without marks is normalized character by character. -/
theorem normal_of_starters (cs : List Char) (h : ∀ c ∈ cs, leadingMarks c = 0) :
    normal cs = cs.flatMap fun c => compose (order (decomposeChar c)) := by
  induction cs with
  | nil => simp [normal, segments, order, compose]
  | cons c cs ih =>
    have hc : leadingMarks c = 0 := h c (by simp)
    have hcs := ih (fun d hd => h d (by simp [hd]))
    have hone : normal [c] = compose (order (decomposeChar c)) := by
      simp [normal_starter [] c hc, segments]
    cases cs with
    | nil => simpa using hone
    | cons d cs =>
      have hd : leadingMarks d = 0 := h d (by simp)
      have happ := normal_append_starter [c] cs d hd
      rw [List.singleton_append, hone, hcs] at happ
      simpa using happ

theorem place_perm (c : Char) (cs : List Char) : (place c cs).Perm (c :: cs) := by
  induction cs with
  | nil => simp [place]
  | cons d cs ih =>
    unfold place
    split_ifs
    · exact (ih.cons d).trans (List.Perm.swap c d cs)
    · rfl

theorem order_perm (cs : List Char) : (order cs).Perm cs := by
  induction cs with
  | nil => simp [order]
  | cons c cs ih => exact (place_perm c (order cs)).trans (ih.cons c)

theorem place_of_base (c : Char) (cs : List Char) (hc : combiningClass c = 0) :
    place c cs = c :: cs := by
  cases cs with
  | nil => rfl
  | cons d cs => simp [place, hc]

namespace Composing

theorem toList_push (text : Composing) (c : Char) : (text.push c).toList = text.toList ++ [c] := by
  simp [toList, push]

theorem toList_rebase (text : Composing) : text.rebase.toList = text.toList := by
  unfold rebase
  split
  · rfl
  · rename_i c cs hc
    simp [toList, hc]

/-- A property of texts that no step of the composition of characters with `P` can break. -/
structure Kept (P : Char → Prop) (I : Composing → Prop) : Prop where
  rebase : ∀ text, I text → I text.rebase
  push : ∀ text c, I text → P c → I (text.push c)
  join : ∀ text c whole, I text →
    composite? text.base c = some whole ∨ hangulComposite? text.base c = some whole →
    I { text with base := whole }

/-- One step adds the character at the end or joins it to the base; before that, the last character may
have become the base. -/
theorem add_cases (join? : Char → Char → Option Char) (text : Composing) (c : Char) :
    ∃ start, (start = text ∨ start = text.rebase) ∧
      (text.add join? c = start.push c ∨
        ∃ whole, join? start.base c = some whole ∧
          text.add join? c = { start with base := whole }) := by
  refine ⟨if combiningClass text.last = 0 then text.rebase else text, by split_ifs <;> simp, ?_⟩
  unfold add
  dsimp only
  generalize (if combiningClass text.last = 0 then text.rebase else text) = start
  split
  · rename_i whole h
    refine Or.inr ⟨whole, ?_, rfl⟩
    split_ifs at h
    exact h
  · exact Or.inl rfl

/-- A relation between the characters that were added and the text that was composed of them, which no step with a
character that satisfies `P` can break. -/
structure Tracks (P : Char → Prop) (R : List Char → Composing → Prop) : Prop where
  rebase : ∀ cs text, R cs text → R cs text.rebase
  push : ∀ cs text c, R cs text → P c → R (cs ++ [c]) (text.push c)
  join : ∀ cs text c whole, R cs text → P c →
    joinsBackward c ∧ composite? text.base c = some whole ∨ hangulComposite? text.base c = some whole →
    R (cs ++ [c]) { text with base := whole }

section Tracks

variable {P : Char → Prop} {R : List Char → Composing → Prop}

theorem Tracks.add (ht : Tracks P R) {join? : Char → Char → Option Char} {c : Char}
    (hj : join? = hangulComposite? ∨ joinsBackward c ∧ join? = composite?) (cs : List Char) (text : Composing)
    (h : R cs text) (hc : P c) : R (cs ++ [c]) (text.add join? c) := by
  obtain ⟨start, hs, hadd⟩ := add_cases join? text c
  have hstart : R cs start := by
    rcases hs with rfl | rfl
    · exact h
    · exact ht.rebase _ _ h
  rcases hadd with hadd | ⟨whole, hw, hadd⟩
  · rw [hadd]
    exact ht.push cs start c hstart hc
  · rw [hadd]
    apply ht.join cs start c whole hstart hc
    rcases hj with rfl | ⟨hback, rfl⟩
    · exact Or.inr hw
    · exact Or.inl ⟨hback, hw⟩

theorem Tracks.foldl (ht : Tracks P R) (cs added : List Char) (text : Composing) (h : R added text)
    (hcs : ∀ c ∈ cs, P c) : R (added ++ cs) (cs.foldl (Composing.add hangulComposite?) text) := by
  induction cs generalizing added text with
  | nil => simpa using h
  | cons c cs ih =>
    have hnext := ht.add (Or.inl rfl) added text h (hcs c (by simp))
    simpa using ih _ _ hnext (fun d hd => hcs d (by simp [hd]))

theorem Tracks.addAll (ht : Tracks P R) (cs added : List Char) (text : Composing) (h : R added text)
    (hcs : ∀ c ∈ cs, P c) : R (added ++ cs) (text.addAll cs) := by
  induction cs generalizing added text with
  | nil => simpa [Composing.addAll] using h
  | cons c cs ih =>
    have hc : P c := hcs c (by simp)
    have hrest : ∀ d ∈ cs, P d := fun d hd => hcs d (by simp [hd])
    have hsplit : added ++ c :: cs = added ++ [c] ++ cs := by simp
    unfold Composing.addAll
    split_ifs with _ hback
    · exact ht.foldl (c :: cs) added text h hcs
    · rw [hsplit]
      exact ih _ _ (ht.add (Or.inr ⟨hback, rfl⟩) added text h hc) hrest
    · rw [hsplit]
      exact ih _ _ (ht.push added text c h hc) hrest

end Tracks

theorem Kept.tracks {P : Char → Prop} {I : Composing → Prop} (hk : Kept P I) : Tracks P fun _ => I where
  rebase _ := hk.rebase
  push _ := hk.push
  join _ text c whole h _ hw := hk.join text c whole h (hw.imp_left And.right)

theorem Kept.foldl {P : Char → Prop} {I : Composing → Prop} (hk : Kept P I) (cs : List Char)
    (text : Composing) (h : I text) (hcs : ∀ c ∈ cs, P c) :
    I (cs.foldl (Composing.add hangulComposite?) text) :=
  hk.tracks.foldl cs [] text h hcs

theorem Kept.addAll {P : Char → Prop} {I : Composing → Prop} (hk : Kept P I) (cs : List Char)
    (text : Composing) (h : I text) (hcs : ∀ c ∈ cs, P c) : I (text.addAll cs) :=
  hk.tracks.addAll cs [] text h hcs

/-- A text that begins with `lead`, in which the base and all other characters satisfy `P`. -/
def Trails (lead : List Char) (P : Char → Prop) (text : Composing) : Prop :=
  ∃ front, text.before = front ++ lead ∧ ∀ c ∈ text.base :: (front ++ text.after), P c

theorem Trails.toList_eq {lead : List Char} {P : Char → Prop} {text : Composing}
    (h : text.Trails lead P) :
    ∃ tail, text.toList = lead.reverse ++ tail ∧ tail ≠ [] ∧ ∀ c ∈ tail, P c := by
  obtain ⟨front, hb, hP⟩ := h
  refine ⟨front.reverse ++ text.base :: text.after.reverse, by simp [toList, hb], by simp, ?_⟩
  intro c hc
  apply hP
  simp only [List.mem_append, List.mem_cons, List.mem_reverse] at hc ⊢
  tauto

theorem Trails.kept (lead : List Char) (P : Char → Prop)
    (hj : ∀ base c whole,
      composite? base c = some whole ∨ hangulComposite? base c = some whole → P whole) :
    Kept P (Trails lead P) where
  rebase := by
    rintro text ⟨front, hb, hP⟩
    unfold Composing.rebase
    split
    · exact ⟨front, hb, hP⟩
    · rename_i c cs hc
      refine ⟨cs ++ text.base :: front, by simp [hb], ?_⟩
      intro d hd
      apply hP
      simp only [hc, List.mem_append, List.mem_cons, List.not_mem_nil, or_false] at hd ⊢
      tauto
  push := by
    rintro text c ⟨front, hb, hP⟩ hc
    refine ⟨front, hb, ?_⟩
    intro d hd
    simp only [Composing.push, List.mem_append, List.mem_cons] at hd hP
    rcases hd with hd | hd | rfl | hd
    · exact hP d (Or.inl hd)
    · exact hP d (Or.inr (Or.inl hd))
    · exact hc
    · exact hP d (Or.inr (Or.inr hd))
  join := by
    rintro text c whole ⟨front, hb, hP⟩ hw
    refine ⟨front, hb, ?_⟩
    simp only [List.mem_cons, forall_eq_or_imp] at hP ⊢
    exact ⟨hj _ _ _ hw, hP.2⟩

/-- A text of two or more characters that begins with `first`, in which all others satisfy `P`. -/
def Opens (first : Char) (P : Char → Prop) (text : Composing) : Prop :=
  (text.before = [] ∧ text.base = first ∧ text.after ≠ [] ∧ ∀ c ∈ text.after, P c) ∨
    text.Trails [first] P

theorem Opens.toList_eq {first : Char} {P : Char → Prop} {text : Composing}
    (h : text.Opens first P) :
    ∃ tail, text.toList = first :: tail ∧ tail ≠ [] ∧ ∀ c ∈ tail, P c := by
  rcases h with ⟨hb, hf, hn, hP⟩ | h
  · exact ⟨text.after.reverse, by simp [toList, hb, hf], by simpa using hn, by simpa using hP⟩
  · simpa using h.toList_eq

/-- A first character that joins with nothing stays first. -/
theorem Opens.kept (first : Char) (P : Char → Prop)
    (hj : ∀ base c whole,
      composite? base c = some whole ∨ hangulComposite? base c = some whole → P whole)
    (hf : ∀ c, composite? first c = none ∧ hangulComposite? first c = none) :
    Kept P (Opens first P) where
  rebase := by
    rintro text (⟨hb, hbase, hn, hP⟩ | h)
    · refine Or.inr ?_
      unfold Composing.rebase
      split
      · rename_i hc
        exact absurd hc hn
      · rename_i c cs hc
        exact ⟨cs, by simp [hb, hbase], by simpa [hc] using hP⟩
    · exact Or.inr ((Trails.kept [first] P hj).rebase text h)
  push := by
    rintro text c (⟨hb, hbase, _, hP⟩ | h) hc
    · refine Or.inl ⟨hb, hbase, by simp [Composing.push], ?_⟩
      simpa [Composing.push, hc] using hP
    · exact Or.inr ((Trails.kept [first] P hj).push text c h hc)
  join := by
    rintro text c whole (⟨_, hbase, _, _⟩ | h) hw
    · rw [hbase, (hf c).1, (hf c).2] at hw
      simp at hw
    · exact Or.inr ((Trails.kept [first] P hj).join text c whole h hw)

/-- From a first character that joins with nothing, the second one is always added at the end. -/
theorem opens_addAll (first c : Char) (cs : List Char) (P : Char → Prop)
    (hj : ∀ base c whole,
      composite? base c = some whole ∨ hangulComposite? base c = some whole → P whole)
    (hf : ∀ c, composite? first c = none ∧ hangulComposite? first c = none)
    (hP : ∀ d ∈ c :: cs, P d) : ((⟨[], first, []⟩ : Composing).addAll (c :: cs)).Opens first P := by
  have hk := Opens.kept first P hj hf
  have hstart : (⟨[], first, [c]⟩ : Composing).Opens first P :=
    Or.inl ⟨rfl, rfl, by simp, by simpa using hP c (by simp)⟩
  have hadd {join? : Char → Char → Option Char} (hn : join? first c = none) :
      (⟨[], first, []⟩ : Composing).add join? c = ⟨[], first, [c]⟩ := by
    simp [Composing.add, Composing.rebase, Composing.push, hn]
  have hcs : ∀ d ∈ cs, P d := fun d hd => hP d (by simp [hd])
  have hnext := hk.addAll cs _ hstart hcs
  unfold Composing.addAll
  split_ifs
  · rw [List.foldl_cons, hadd (hf c).2]
    exact hk.foldl cs _ hstart hcs
  · rw [hadd (hf c).1]
    exact hnext
  · exact hnext

end Composing

/-- Code points outside ASCII whose upper-case image lies outside ASCII too. -/
def leavesAscii (code : Nat) : Bool :=
  0x80 ≤ code && code ≠ 0xDF && code ≠ 0x131 && code ≠ 0x17F && !(0xFB00 ≤ code && code ≤ 0xFB06)

theorem toNat_ofNat (code : Nat) (h : code.isValidChar) : (Char.ofNat code).toNat = code := by
  rw [Char.ofNat, dif_pos h]
  rfl

theorem upperSequences_leave_ascii : ∀ entry ∈ upperSequences, leavesAscii entry.1 →
    ∃ code ∈ entry.2, 0x80 ≤ (Char.ofNat code).toNat := by
  decide

theorem upperRuns_leave_ascii : ∀ run ∈ upperRuns, run.last < 0x80 ∨
    (run.first = run.last ∧ leavesAscii run.first = false) ∨
    (0x80 ≤ run.image ∧ run.image + (run.last - run.first) < 0xD800) ∨
    (0xE000 ≤ run.image ∧ run.image + (run.last - run.first) < 0x110000) := by
  decide

theorem CaseRun.imageOf_eq_some {run : CaseRun} {code image : Nat} (h : run.imageOf? code = some image) :
    (run.first ≤ code ∧ code ≤ run.last) ∧ (code - run.first) % run.stride = 0 ∧
      image = run.image + (code - run.first) := by
  simp only [imageOf?, Bool.and_eq_true, decide_eq_true_eq, beq_iff_eq] at h
  split_ifs at h with hin
  exact ⟨hin.1, hin.2, (Option.some.inj h).symm⟩

/-- Outside ASCII the image of a character is listed as a sequence, or lies on a run, or is the character. -/
theorem upperChar_cases (c : Char) (hc : 0x80 ≤ c.toNat) :
    (∃ image, (c.toNat, image) ∈ upperSequences ∧ upperChar c = image.map Char.ofNat) ∨
    (∃ run ∈ upperRuns, ∃ image, run.imageOf? c.toNat = some image ∧ upperChar c = [Char.ofNat image]) ∨
    (upperSequences.lookup c.toNat = none ∧ (∀ run ∈ upperRuns, run.imageOf? c.toNat = none) ∧
      upperChar c = [c]) := by
  unfold upperChar
  rw [if_neg (by omega)]
  split
  · rename_i image himage
    exact Or.inl ⟨image, mem_of_lookup himage, rfl⟩
  · rename_i hlookup
    right
    unfold caseImage
    split
    · rename_i image himage
      obtain ⟨run, hrun, himage⟩ := List.exists_of_findSome?_eq_some himage
      exact Or.inl ⟨run, hrun, image, himage, rfl⟩
    · rename_i hnone
      exact Or.inr ⟨hlookup, List.findSome?_eq_none_iff.mp hnone, rfl⟩

/-- Upper-casing such a character gives something outside ASCII. -/
theorem upperChar_leaves_ascii (c : Char) (hc : leavesAscii c.toNat) :
    ∃ d ∈ upperChar c, 0x80 ≤ d.toNat := by
  have hlow : 0x80 ≤ c.toNat := by
    simp only [leavesAscii, Bool.and_eq_true, decide_eq_true_eq] at hc
    omega
  rcases upperChar_cases c hlow with ⟨image, himage, he⟩ | ⟨run, hrun, image, himage, he⟩ | ⟨-, -, he⟩
  · obtain ⟨code, hcode, hbig⟩ := upperSequences_leave_ascii _ himage hc
    exact ⟨Char.ofNat code, he ▸ List.mem_map_of_mem hcode, hbig⟩
  · obtain ⟨⟨hfirst, hlast⟩, -, rfl⟩ := CaseRun.imageOf_eq_some himage
    refine ⟨_, he ▸ List.mem_singleton.mpr rfl, ?_⟩
    rcases upperRuns_leave_ascii run hrun with h | ⟨hone, hl⟩ | ⟨h1, h2⟩ | ⟨h1, h2⟩
    · omega
    · rw [show run.first = c.toNat by omega, hc] at hl
      simp at hl
    · rw [toNat_ofNat _ (Or.inl (by omega))]
      omega
    · rw [toNat_ofNat _ (Or.inr (by omega))]
      omega
  · exact ⟨c, he ▸ List.mem_singleton.mpr rfl, hlow⟩

theorem pairMappings_leave_ascii : ∀ m ∈ pairMappings,
    (m.1.isValidChar ∧ leavesAscii m.1) ∧ m.2.2.isValidChar ∧ leavesAscii m.2.2 := by
  decide +kernel

/-- No base of a pair lies at the place of the blank in its plane. -/
theorem pairMappings_base_ne_blank : ∀ m ∈ pairMappings, planeOffset m.2.1 ≠ 0x20 := by
  decide

/-- A composite is listed with a pair at the same places, whatever the planes are. -/
theorem composite_found {base c whole : Char} (h : composite? base c = some whole) :
    ∃ m ∈ pairMappings, planeOffset m.2.1 = planeOffset base.toNat ∧ planeOffset m.2.2 = planeOffset c.toNat ∧
      whole = Char.ofNat m.1 := by
  unfold composite? at h
  split at h
  · rename_i m hm
    have hplaces := List.find?_some hm
    simp only [Bool.and_eq_true, beq_iff_eq] at hplaces
    exact ⟨m, List.mem_of_find?_eq_some hm, hplaces.1.1, hplaces.1.2, (Option.some.inj h).symm⟩
  · simp at h

theorem blank_joins_nothing (c : Char) :
    composite? ' ' c = none ∧ hangulComposite? ' ' c = none := by
  refine ⟨?_, by simp [hangulComposite?, leadBase, hangulBase]⟩
  apply Option.eq_none_iff_forall_ne_some.mpr
  intro whole h
  obtain ⟨m, hm, hbase, -⟩ := composite_found h
  exact pairMappings_base_ne_blank m hm hbase

theorem hangulComposite_found {base c whole : Char} (h : hangulComposite? base c = some whole) :
    ∃ code, 0xAC00 ≤ code ∧ code < 0xAC00 + 11172 ∧ whole = Char.ofNat code := by
  simp only [hangulComposite?, Bool.and_eq_true, decide_eq_true_eq, beq_iff_eq] at h
  split_ifs at h with h1 h2
  · simp only [leadBase, vowelBase] at h1
    refine ⟨_, ?_, ?_, (Option.some.inj h).symm⟩ <;>
      simp only [hangulBase, leadBase, vowelBase] <;> omega
  · simp only [hangulBase, trailBase] at h2
    refine ⟨_, ?_, ?_, (Option.some.inj h).symm⟩ <;> simp only [trailBase] <;> omega

/-- What two characters are joined to is listed with a pair or is a Hangul syllable. -/
theorem composite_cases {base c whole : Char}
    (h : composite? base c = some whole ∨ hangulComposite? base c = some whole) :
    (∃ m ∈ pairMappings, whole = Char.ofNat m.1) ∨
      ∃ code, 0xAC00 ≤ code ∧ code < 0xAC00 + 11172 ∧ whole = Char.ofNat code := by
  rcases h with h | h
  · obtain ⟨m, hm, -, -, hw⟩ := composite_found h
    exact Or.inl ⟨m, hm, hw⟩
  · exact Or.inr (hangulComposite_found h)

theorem leavesAscii_of_high {code : Nat} (h : 0x1100 ≤ code ∧ code < 0xD800) : leavesAscii code := by
  simp only [leavesAscii, Bool.and_eq_true, decide_eq_true_eq, Bool.not_eq_true',
    Bool.and_eq_false_iff, decide_eq_false_iff_not]
  omega

theorem composite_leaves_ascii (base c whole : Char)
    (h : composite? base c = some whole ∨ hangulComposite? base c = some whole) :
    leavesAscii whole.toNat := by
  rcases composite_cases h with ⟨m, hm, rfl⟩ | ⟨code, h1, h2, rfl⟩
  · obtain ⟨⟨hv, hl⟩, _⟩ := pairMappings_leave_ascii m hm
    rwa [toNat_ofNat _ hv]
  · rw [toNat_ofNat _ (Or.inl (by omega))]
    exact leavesAscii_of_high (by omega)

theorem isMark_leaves_ascii (c : Char) (hc : isMark c) : leavesAscii c.toNat := by
  have hligature : ∀ i < 7, isMark (Char.ofNat (0xFB00 + i)) = false := by decide
  have hlow : 0x300 ≤ c.toNat := by
    simp only [isMark, Bool.and_eq_true, decide_eq_true_eq] at hc
    exact hc.1
  by_contra hn
  simp only [leavesAscii, Bool.and_eq_true, decide_eq_true_eq, Bool.not_eq_true',
    Bool.and_eq_false_iff, decide_eq_false_iff_not] at hn
  have hi := hligature (c.toNat - 0xFB00) (by omega)
  rw [show 0xFB00 + (c.toNat - 0xFB00) = c.toNat by omega, Char.ofNat_toNat, hc] at hi
  simp at hi

/-- The forms of marks lie in two blocks, in which no character has a canonical mapping. -/
theorem markForms_unmapped :
    (∀ run ∈ markForms, 0x3133 ≤ run.1 ∧ run.2 ≤ 0x3163 ∨ 0xFF9E ≤ run.1 ∧ run.2 ≤ 0xFFDC) ∧
    (∀ m ∈ pairMappings, ¬ (0x3133 ≤ m.1 ∧ m.1 ≤ 0x3163) ∧ ¬ (0xFF9E ≤ m.1 ∧ m.1 ≤ 0xFFDC)) ∧
    (∀ m ∈ singletonMappings,
      ¬ (0x3133 ≤ m.1 ∧ m.1 ≤ 0x3163) ∧ ¬ (0xFF9E ≤ m.1 ∧ m.1 ≤ 0xFFDC)) := by
  decide +kernel

/-- Behind its first character, a decomposition holds only marks of pairs. -/
theorem decomposeWithin_tail (depth code : Nat) :
    ∃ head tail, decomposeWithin depth code = head :: tail ∧
      ∀ n ∈ tail, n.isValidChar ∧ leavesAscii n := by
  induction depth generalizing code with
  | zero => exact ⟨code, [], rfl, by simp⟩
  | succ depth ih =>
    unfold decomposeWithin
    split
    · rename_i base mark hm
      obtain ⟨head, tail, he, ht⟩ := ih base
      refine ⟨head, tail ++ [mark], by simp [he], ?_⟩
      intro n hn
      rcases List.mem_append.mp hn with hn | hn
      · exact ht n hn
      · rw [List.mem_singleton.mp hn]
        exact (pairMappings_leave_ascii _ (mem_of_lookup hm)).2
    · split
      · exact ih _
      · exact ⟨code, [], rfl, by simp⟩

theorem decomposeChar_markForm (c : Char) (h : inRanges markForms c.toNat) :
    decomposeChar c = [c] := by
  obtain ⟨run, hrun, hin⟩ := List.any_eq_true.mp h
  simp only [Bool.and_eq_true, decide_eq_true_eq] at hin
  obtain ⟨hblocks, hpairs, hsingles⟩ := markForms_unmapped
  have hblock := hblocks run hrun
  have hpair : pairMappings.lookup c.toNat = none := by
    cases hl : pairMappings.lookup c.toNat with
    | none => rfl
    | some m =>
      have := hpairs _ (mem_of_lookup hl)
      omega
  have hsingle : singletonMappings.lookup c.toNat = none := by
    cases hl : singletonMappings.lookup c.toNat with
    | none => rfl
    | some m =>
      have := hsingles _ (mem_of_lookup hl)
      omega
  unfold decomposeChar
  have hhangul : ¬ (hangulBase ≤ c.toNat ∧ c.toNat < hangulBase + 11172) := by
    simp only [hangulBase]
    omega
  rw [if_neg (by omega), if_neg (by simpa only [Bool.and_eq_true, decide_eq_true_eq] using hhangul)]
  simp [decomposeWithin, hpair, hsingle]

/-- All parts of a Hangul syllable lie in one block. -/
theorem hangulParts_block {code : Nat} (h : hangulBase ≤ code ∧ code < hangulBase + 11172) :
    ∀ n ∈ hangulParts code, 0x1100 ≤ n ∧ n < 0x1200 := by
  intro n hn
  unfold hangulParts at hn
  unfold hangulBase leadBase vowelBase trailBase at *
  dsimp only at hn
  split_ifs at hn <;>
    simp only [List.mem_append, List.mem_cons, List.not_mem_nil, or_false] at hn <;> omega

theorem decomposeChar_tail (c : Char) :
    ∃ head tail, decomposeChar c = head :: tail ∧ ∀ d ∈ tail, leavesAscii d.toNat := by
  unfold decomposeChar
  split_ifs with hlow hhangul
  · exact ⟨c, [], rfl, by simp⟩
  · rw [Bool.and_eq_true, decide_eq_true_eq, decide_eq_true_eq] at hhangul
    have hblock := hangulParts_block hhangul
    obtain ⟨head, tail, he⟩ : ∃ head tail, hangulParts c.toNat = head :: tail := by
      unfold hangulParts
      dsimp only
      split_ifs <;> exact ⟨_, _, rfl⟩
    refine ⟨Char.ofNat head, tail.map Char.ofNat, by rw [he, List.map_cons], ?_⟩
    intro d hd
    obtain ⟨n, hn, rfl⟩ := List.mem_map.mp hd
    have hrange := hblock n (by simp [he, hn])
    rw [toNat_ofNat _ (Or.inl (by omega))]
    exact leavesAscii_of_high (by omega)
  · obtain ⟨head, tail, he, ht⟩ := decomposeWithin_tail 3 c.toNat
    refine ⟨Char.ofNat head, tail.map Char.ofNat, by simp [he], ?_⟩
    intro d hd
    obtain ⟨n, hn, rfl⟩ := List.mem_map.mp hd
    obtain ⟨hv, hl⟩ := ht n hn
    rwa [toNat_ofNat _ hv]

/-- A character that begins with a mark is written with marks only, none of which turns into ASCII. -/
theorem decomposeChar_mark (c : Char) (hc : leadingMarks c ≠ 0) :
    ∀ d ∈ decomposeChar c, leavesAscii d.toNat := by
  by_cases hform : inRanges markForms c.toNat
  · rw [decomposeChar_markForm c hform]
    obtain ⟨run, hrun, hin⟩ := List.any_eq_true.mp hform
    simp only [Bool.and_eq_true, decide_eq_true_eq] at hin
    have hblock := markForms_unmapped.1 run hrun
    simp only [List.mem_singleton, forall_eq, leavesAscii, Bool.and_eq_true, decide_eq_true_eq,
      Bool.not_eq_true', Bool.and_eq_false_iff, decide_eq_false_iff_not]
    omega
  · obtain ⟨head, tail, he, ht⟩ := decomposeChar_tail c
    have hmark : isMark head := by
      by_contra hn
      exact hc (by simp [leadingMarks, hform, he, hn])
    simp only [he, List.mem_cons, forall_eq_or_imp]
    exact ⟨isMark_leaves_ascii head hmark, ht⟩

theorem decomposeChar_joiner : ∀ d ∈ decomposeChar joiner, leavesAscii d.toNat := by
  -- To decide the statement itself could mean to go through all characters.
  have hall : (decomposeChar joiner).all fun d => leavesAscii d.toNat := by decide
  intro d hd
  exact List.all_eq_true.mp hall d hd

/-- A text that begins with a mark. -/
def StartsWithMark (cs : List Char) : Prop :=
  ∃ c, cs.head? = some c ∧ leadingMarks c ≠ 0

/-- The segment at hand takes up the marks that follow; a joiner may close it. -/
theorem segments_first (run : Nat) (segment cs : List Char) :
    ∃ marks others, segments run segment cs = (segment.reverse ++ marks) :: others ∧
      (∀ d ∈ marks.flatMap decomposeChar, leavesAscii d.toNat) ∧
      (StartsWithMark cs → marks ≠ []) := by
  induction cs generalizing run segment with
  | nil => exact ⟨[], [], by simp [segments], by simp, by simp [StartsWithMark]⟩
  | cons c cs ih =>
    unfold segments
    dsimp only
    split_ifs with h0 hrun
    · exact ⟨[], _, by rw [List.append_nil], by simp, by simp [StartsWithMark, h0]⟩
    · refine ⟨[joiner], _, by rw [List.reverse_cons], ?_, by simp⟩
      simpa using decomposeChar_joiner
    · obtain ⟨marks, others, he, hl, _⟩ := ih (run + leadingMarks c) (c :: segment)
      refine ⟨c :: marks, others, by simp [he], ?_, by simp⟩
      intro d hd
      rw [List.flatMap_cons, List.mem_append] at hd
      rcases hd with hd | hd
      · exact decomposeChar_mark c h0 d hd
      · exact hl d hd

theorem segments_first_ordered (run : Nat) (segment cs : List Char) (h : StartsWithMark cs) :
    ∃ marks others c ds, segments run segment cs = (segment.reverse ++ marks) :: others ∧
      order (marks.flatMap decomposeChar) = c :: ds ∧ ∀ d ∈ c :: ds, leavesAscii d.toNat := by
  obtain ⟨marks, others, he, hl, hn⟩ := segments_first run segment cs
  obtain ⟨mark, marks, rfl⟩ := List.exists_cons_of_ne_nil (hn h)
  obtain ⟨head, tail, hm, _⟩ := decomposeChar_tail mark
  have hperm := order_perm ((mark :: marks).flatMap decomposeChar)
  cases ho : order ((mark :: marks).flatMap decomposeChar) with
  | nil =>
    rw [ho] at hperm
    simp [hm] at hperm
  | cons c ds =>
    refine ⟨mark :: marks, others, c, ds, he, ho, ?_⟩
    intro d hd
    exact hl d (hperm.mem_iff.mp (ho ▸ hd))

theorem normal_blank_mark (cs : List Char) (h : StartsWithMark cs) :
    ∃ tail, normal (' ' :: cs) = ' ' :: tail ∧ ∃ c ∈ tail, leavesAscii c.toNat := by
  obtain ⟨marks, others, c, ds, he, ho, hP⟩ :=
    segments_first_ordered (trailingMarks ' ') [' '] cs h
  have hblank : decomposeChar ' ' = [' '] := by decide
  have horder : order ((' ' :: marks).flatMap decomposeChar) = ' ' :: c :: ds := by
    rw [List.flatMap_cons, hblank, List.singleton_append, order, ho]
    exact place_of_base ' ' _ (by decide)
  obtain ⟨tail, htail, hne, hall⟩ := (Composing.opens_addAll ' ' c ds _ composite_leaves_ascii
    blank_joins_nothing hP).toList_eq
  rw [normal_starter cs ' ' (by decide), he, List.reverse_singleton, List.singleton_append,
    List.flatMap_cons, horder, compose, htail]
  exact ⟨tail ++ _, rfl, tail.head hne, by simp, hall _ (List.head_mem hne)⟩

theorem normal_mark (cs : List Char) (h : StartsWithMark cs) :
    ∃ c ∈ normal cs, leavesAscii c.toNat := by
  obtain ⟨marks, others, c, ds, he, ho, hP⟩ := segments_first_ordered 0 [] cs h
  have hstart : (⟨[], c, []⟩ : Composing).Trails [] (fun d => leavesAscii d.toNat) :=
    ⟨[], rfl, by simpa using hP c (by simp)⟩
  obtain ⟨tail, htail, hne, hall⟩ := ((Composing.Trails.kept [] _ composite_leaves_ascii).addAll ds
    _ hstart (fun d hd => hP d (by simp [hd]))).toList_eq
  rw [List.reverse_nil, List.nil_append] at htail
  rw [normal, he, List.reverse_nil, List.nil_append, List.flatMap_cons, ho, compose, htail]
  exact ⟨tail.head hne, by simp, hall _ (List.head_mem hne)⟩

theorem normal_blank (cs : List Char) (h : ¬ StartsWithMark cs) :
    normal (' ' :: cs) = ' ' :: normal cs := by
  have hone : normal [' '] = [' '] := by decide
  cases cs with
  | nil => exact hone
  | cons c cs =>
    have hc : leadingMarks c = 0 := by
      by_contra hn
      exact h ⟨c, rfl, hn⟩
    have happ := normal_append_starter [' '] cs c hc
    rwa [hone] at happ

theorem upper_leaves_ascii (cs : List Char) (h : ∃ c ∈ cs, leavesAscii c.toNat) :
    ∃ c ∈ upper cs, 0x80 ≤ c.toNat := by
  obtain ⟨c, hc, hl⟩ := h
  obtain ⟨d, hd, hbig⟩ := upperChar_leaves_ascii c hl
  exact ⟨d, List.mem_flatMap.mpr ⟨c, hc, hd⟩, hbig⟩

/-- A word before a blank folds as it does alone. So does one after it, unless it begins with a mark, and
then it does not fold to ASCII on either occasion. -/
theorem foldChars_append_blank (a b : List Char) :
    ∃ tail, foldChars (a ++ ' ' :: b) = foldChars a ++ ' ' :: tail ∧
      (tail = foldChars b ∨
        (∃ c ∈ tail, 0x80 ≤ c.toNat) ∧ ∃ c ∈ foldChars b, 0x80 ≤ c.toNat) := by
  have hblank : upperChar ' ' = [' '] := by decide
  by_cases hb : StartsWithMark b
  · obtain ⟨tail, he, hl⟩ := normal_blank_mark b hb
    refine ⟨upper tail, ?_, Or.inr ⟨upper_leaves_ascii tail hl,
      upper_leaves_ascii _ (normal_mark b hb)⟩⟩
    rw [foldChars, normal_append_starter a b ' ' (by decide), he]
    simp [foldChars, upper, hblank]
  · refine ⟨foldChars b, ?_, Or.inl rfl⟩
    rw [foldChars, normal_append_starter a b ' ' (by decide), normal_blank b hb]
    simp [foldChars, upper, hblank]

theorem append_blank_inj {a b p t : List Char} (hp : ' ' ∉ p) (ht : ' ' ∉ t)
    (h : a ++ ' ' :: b = p ++ ' ' :: t) : a = p ∧ b = t := by
  induction a generalizing p with
  | nil =>
    cases p with
    | nil => simpa using h
    | cons c p =>
      simp only [List.nil_append, List.cons_append, List.cons.injEq] at h
      exact absurd (List.mem_cons.mpr (Or.inl h.1)) hp
  | cons c a ih =>
    cases p with
    | nil =>
      simp only [List.cons_append, List.nil_append, List.cons.injEq] at h
      simp [← h.2] at ht
    | cons d p =>
      simp only [List.cons_append, List.cons.injEq] at h
      obtain ⟨rfl, rfl⟩ := ih (fun hm => hp (by simp [hm])) h.2
      exact ⟨by rw [h.1], rfl⟩

/-- A character that folds to itself wherever it stands. -/
def Inert (c : Char) : Prop :=
  leadingMarks c = 0 ∧ upper (compose (order (decomposeChar c))) = [c]

instance (c : Char) : Decidable (Inert c) :=
  inferInstanceAs (Decidable (_ ∧ _))

/-- A text without marks is folded character by character. -/
theorem foldChars_of_starters (cs : List Char) (h : ∀ c ∈ cs, leadingMarks c = 0) :
    foldChars cs = cs.flatMap fun c => upper (compose (order (decomposeChar c))) := by
  rw [foldChars, normal_of_starters cs h, upper, List.flatMap_assoc]
  rfl

theorem foldChars_of_inert (cs : List Char) (h : ∀ c ∈ cs, Inert c) : foldChars cs = cs := by
  rw [foldChars_of_starters cs fun c hc => (h c hc).1]
  calc
    _ = cs.flatMap fun c => [c] := List.flatMap_congr fun c hc => (h c hc).2
    _ = cs := List.flatMap_singleton' cs

theorem fold_toList (word : String) : (fold word).toList = foldChars word.toList := by
  simp [fold]

/-- The fold of two words begins with the fold of the first one and a blank. -/
theorem fold_pair_toList (a b : String) : ∃ tail,
    (fold (a ++ " " ++ b)).toList = (fold a).toList ++ ' ' :: tail ∧
      (tail = foldChars b.toList ∨
        (∃ c ∈ tail, 0x80 ≤ c.toNat) ∧ ∃ c ∈ foldChars b.toList, 0x80 ≤ c.toNat) := by
  obtain ⟨tail, he, hb⟩ := foldChars_append_blank a.toList b.toList
  refine ⟨tail, ?_, hb⟩
  rw [fold_toList, fold_toList, ← he]
  simp

theorem blank_mem_fold_pair (a b : String) : ' ' ∈ (fold (a ++ " " ++ b)).toList := by
  obtain ⟨tail, he, -⟩ := fold_pair_toList a b
  simp [he]

/-- If two words with a blank between them fold to two blank-free words, the first one folds to the first. -/
theorem fold_left_of_pair (a b p t : String) (hp : ' ' ∉ p.toList) (ht : ' ' ∉ t.toList)
    (h : fold (a ++ " " ++ b) = p ++ " " ++ t) : fold a = p := by
  obtain ⟨tail, he, -⟩ := fold_pair_toList a b
  rw [h] at he
  have hsplit := append_blank_inj hp ht (by simpa using he.symm)
  exact String.toList_injective hsplit.1

/-- For an ASCII word in second place, a pair folds to a pair exactly if its words do. -/
theorem fold_pair_iff (a b p t : String) (hp : ' ' ∉ p.toList) (ht : ' ' ∉ t.toList)
    (hascii : t.toList.all fun c => c.toNat < 0x80) :
    fold (a ++ " " ++ b) = p ++ " " ++ t ↔ fold a = p ∧ fold b = t := by
  obtain ⟨tail, hpair, hb⟩ := fold_pair_toList a b
  have hnot {cs : List Char} (hcs : ∃ c ∈ cs, 0x80 ≤ c.toNat) : cs ≠ t.toList := by
    rintro rfl
    obtain ⟨c, hc, hbig⟩ := hcs
    have hsmall : c.toNat < 0x80 := by simpa using List.all_eq_true.mp hascii c hc
    omega
  constructor
  · intro h
    rw [h] at hpair
    obtain ⟨ha, ht'⟩ := append_blank_inj hp ht (by simpa using hpair.symm)
    refine ⟨String.toList_injective ha, ?_⟩
    rcases hb with rfl | ⟨hb, _⟩
    · exact String.toList_injective (by rw [fold_toList, ht'])
    · exact absurd ht' (hnot hb)
  · rintro ⟨rfl, rfl⟩
    rcases hb with rfl | ⟨_, hb⟩
    · apply String.toList_injective
      rw [hpair]
      simp [fold_toList]
    · exact absurd (fold_toList b).symm (hnot hb)

end Keystroke.Text
