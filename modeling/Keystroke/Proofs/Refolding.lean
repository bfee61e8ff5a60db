import Keystroke.Proofs.Declarations
import Keystroke.Proofs.Keypad
import Mathlib.Data.Nat.Bitwise

/-! Folding a folded spelling again. Upper-casing comes after composition and may leave characters that are not composed,
so a second fold can change the first one. It does exactly if the first one is not in composed form. That is clear as
long as capital letters compose to capital letters. But planes are not told apart, and a stray character outside the
basic plane may compose to a small letter. It is lost then, and since upper-casing brings no stray back, the second fold
differs from the first. -/
namespace Keystroke.Text
set_option maxRecDepth 20000

/-- The code points on a run that have an image. -/
def CaseRun.sources (run : CaseRun) : List Nat :=
  (List.range ((run.last - run.first) / run.stride + 1)).map fun n => run.first + n * run.stride

/-- The images of the code points on a run. -/
def CaseRun.images (run : CaseRun) : List Nat :=
  (List.range ((run.last - run.first) / run.stride + 1)).map fun n => run.image + n * run.stride

/-- The code points with an upper-case image. -/
def smallCodes : List Nat :=
  upperSequences.map Prod.fst ++ upperRuns.flatMap CaseRun.sources

/-- The code points that occur in upper-case images. -/
def upperImages : List Nat :=
  upperSequences.flatMap Prod.snd ++ upperRuns.flatMap CaseRun.images

/-- A set of code points as a number, one bit for each. Whether a code point is in it takes one step to decide. -/
def codeSet (codes : List Nat) : Nat :=
  codes.foldr (fun code set => 1 <<< code ||| set) 0

def smallSet : Nat :=
  codeSet smallCodes

/-- A character that upper-casing changes. -/
def isSmall (c : Char) : Bool :=
  smallSet.testBit c.toNat

/-- The places of the bases that compose to small characters. -/
def straySet : Nat :=
  codeSet ((pairMappings.filter fun m => isSmall (Char.ofNat m.1)).map fun m => planeOffset m.2.1)

/-- A character outside the basic plane that composes like a base of small characters. -/
def isStray (c : Char) : Bool :=
  0x10000 ≤ c.toNat && straySet.testBit (planeOffset c.toNat)

/-- A character that is neither small nor a stray. Signs count as capital. -/
def Capital (c : Char) : Prop :=
  isSmall c = false ∧ isStray c = false

instance (c : Char) : Decidable (Capital c) :=
  inferInstanceAs (Decidable (_ ∧ _))

theorem testBit_codeSet (codes : List Nat) (code : Nat) : (codeSet codes).testBit code = true ↔ code ∈ codes := by
  induction codes with
  | nil => simp [codeSet]
  | cons first codes ih =>
    have hcons : codeSet (first :: codes) = 1 <<< first ||| codeSet codes := rfl
    rw [hcons, Nat.testBit_or, Bool.or_eq_true, ih, Nat.one_shiftLeft, Nat.testBit_two_pow, decide_eq_true_eq,
      List.mem_cons, eq_comm]

theorem isSmall_iff (c : Char) : isSmall c = true ↔ c.toNat ∈ smallCodes :=
  testBit_codeSet smallCodes c.toNat

/-- What the tables of cases and of compositions have to do with each other. -/
theorem tables_checked :
    (∀ code ∈ upperImages, Capital (Char.ofNat code)) ∧
    (∀ code < 0x80, Capital (Char.ofNat code).toUpper ∧
      (isSmall (Char.ofNat code) = false → (Char.ofNat code).toUpper = Char.ofNat code)) ∧
    (∀ m ∈ pairMappings, isStray (Char.ofNat m.1) = false ∧
      (isSmall (Char.ofNat m.1) = false → Capital (Char.ofNat m.2.1) ∧ Capital (Char.ofNat m.2.2)) ∧
      -- A small composite has a small base, unless an iota is written below it, which is small itself.
      (isSmall (Char.ofNat m.1) = true →
        m.2.1 < 0x10000 ∧ isSmall (Char.ofNat m.2.1) = true ∨ planeOffset m.2.2 = 0x345) ∧
      (planeOffset m.2.2 = 0x345 → isSmall (Char.ofNat m.2.2) = true)) ∧
    (∀ m ∈ singletonMappings, isSmall (Char.ofNat m.1) = false → Capital (Char.ofNat m.2)) ∧
    (∀ run ∈ upperRuns, run.first ≤ run.last) ∧ isSmall joiner = false ∧
    -- Hangul has no case.
    ∀ code ∈ smallCodes, ¬ (0x1100 ≤ code ∧ code < 0x1200) ∧ ¬ (0xAC00 ≤ code ∧ code < 0xAC00 + 11172) := by
  decide +kernel

attribute [local irreducible] isSmall isStray

section Cases

namespace CaseRun

variable {run : CaseRun} {code image : Nat}

/-- A code point with an image lies a number of strides behind the first one, and so does the image. -/
theorem imageOf_stride (h : run.imageOf? code = some image) : ∃ n < (run.last - run.first) / run.stride + 1,
    code = run.first + n * run.stride ∧ image = run.image + n * run.stride := by
  obtain ⟨⟨hfirst, hlast⟩, hstride, rfl⟩ := imageOf_eq_some h
  have hwhole : (code - run.first) / run.stride * run.stride = code - run.first :=
    Nat.div_mul_cancel (Nat.dvd_of_mod_eq_zero hstride)
  refine ⟨(code - run.first) / run.stride, ?_, ?_, ?_⟩
  · exact Nat.lt_succ_of_le (Nat.div_le_div_right (by omega))
  · rw [hwhole]
    omega
  · rw [hwhole]

theorem mem_sources (h : run.imageOf? code = some image) : code ∈ run.sources := by
  obtain ⟨n, hn, rfl, -⟩ := imageOf_stride h
  exact List.mem_map_of_mem (List.mem_range.mpr hn)

theorem mem_images (h : run.imageOf? code = some image) : image ∈ run.images := by
  obtain ⟨n, hn, -, rfl⟩ := imageOf_stride h
  exact List.mem_map_of_mem (List.mem_range.mpr hn)

theorem imageOf_ne_none (hrun : run.first ≤ run.last) (h : code ∈ run.sources) : run.imageOf? code ≠ none := by
  obtain ⟨n, hn, rfl⟩ := List.mem_map.mp h
  have hle : n * run.stride ≤ run.last - run.first := by
    apply Nat.le_trans (Nat.mul_le_mul_right _ (Nat.le_of_lt_succ (List.mem_range.mp hn)))
    exact Nat.div_mul_le_self _ _
  have hlast : run.first + n * run.stride ≤ run.last := by omega
  simp [imageOf?, hlast]

end CaseRun

variable {c d : Char}

theorem isStray_of_basic (h : c.toNat < 0x10000) : isStray c = false := by
  rw [isStray, Bool.and_eq_false_iff, decide_eq_false_iff_not]
  omega

theorem capital_of_hangul {code : Nat}
    (h : 0x1100 ≤ code ∧ code < 0x1200 ∨ 0xAC00 ≤ code ∧ code < 0xAC00 + 11172) :
    Capital (Char.ofNat code) := by
  have hcode : (Char.ofNat code).toNat = code := toNat_ofNat code (Or.inl (by omega))
  obtain ⟨-, -, -, -, -, -, hsmall⟩ := tables_checked
  refine ⟨?_, isStray_of_basic (by omega)⟩
  rw [← Bool.not_eq_true, isSmall_iff, hcode]
  intro hmem
  have := hsmall code hmem
  omega

/-- Upper-casing leaves the other characters as they are. -/
theorem upperChar_of_not_small (h : isSmall c = false) : upperChar c = [c] := by
  have hnot : c.toNat ∉ smallCodes := by
    rw [← isSmall_iff, h]
    simp
  by_cases hlow : c.toNat < 0x80
  · obtain ⟨-, hascii, -⟩ := tables_checked
    have hsame := (hascii c.toNat hlow).2
    rw [Char.ofNat_toNat] at hsame
    rw [upperChar, if_pos hlow, hsame h]
  · rcases upperChar_cases c (by omega) with ⟨image, himage, -⟩ | ⟨run, hrun, image, himage, -⟩ | ⟨-, -, he⟩
    · have hlisted := List.mem_map_of_mem (f := Prod.fst) himage
      exact absurd (List.mem_append_left _ hlisted) hnot
    · have hlisted := List.mem_flatMap.mpr ⟨run, hrun, CaseRun.mem_sources himage⟩
      exact absurd (List.mem_append_right _ hlisted) hnot
    · exact he

/-- The image of a small character holds neither small characters nor strays. -/
theorem upperChar_of_small (h : isSmall c = true) (hd : d ∈ upperChar c) : Capital d := by
  obtain ⟨himages, hascii, -, -, hruns, -⟩ := tables_checked
  by_cases hlow : c.toNat < 0x80
  · have hupper := (hascii c.toNat hlow).1
    rw [Char.ofNat_toNat] at hupper
    rw [upperChar, if_pos hlow] at hd
    rw [List.mem_singleton.mp hd]
    exact hupper
  · rcases upperChar_cases c (by omega) with ⟨image, himage, he⟩ | ⟨run, hrun, image, himage, he⟩ | ⟨hlookup, hnone, -⟩
    · rw [he] at hd
      obtain ⟨code, hcode, rfl⟩ := List.mem_map.mp hd
      exact himages code (List.mem_append_left _ (List.mem_flatMap.mpr ⟨_, himage, hcode⟩))
    · rw [he] at hd
      rw [List.mem_singleton.mp hd]
      exact himages image (List.mem_append_right _ (List.mem_flatMap.mpr ⟨run, hrun, CaseRun.mem_images himage⟩))
    · -- A small character is listed or lies on a run.
      rcases List.mem_append.mp ((isSmall_iff c).mp h) with hlisted | hlisted
      · obtain ⟨entry, hentry, hcode⟩ := List.mem_map.mp hlisted
        have hne := List.lookup_eq_none_iff.mp hlookup entry hentry
        simp [hcode] at hne
      · obtain ⟨run, hrun, hsource⟩ := List.mem_flatMap.mp hlisted
        exact absurd (hnone run hrun) (CaseRun.imageOf_ne_none (hruns run hrun) hsource)

end Cases

section Compositions

variable {base c whole : Char}

/-- The iota below is small, and nothing else that joins backward lies at its place. -/
theorem isSmall_of_iota (hback : joinsBackward c = true) (hplace : planeOffset c.toNat = 0x345) :
    isSmall c = true := by
  obtain ⟨-, -, hpairs, -⟩ := tables_checked
  simp only [joinsBackward, Bool.and_eq_true, Bool.or_eq_true, decide_eq_true_eq, List.any_eq_true, beq_iff_eq] at hback
  rcases hback.2 with (⟨h1, h2⟩ | ⟨h1, h2⟩) | ⟨m, hm, hmark, -⟩
  · simp only [vowelBase, planeOffset] at h1 h2 hplace
    omega
  · simp only [trailBase, planeOffset] at h1 h2 hplace
    omega
  · have hsmall := (hpairs m hm).2.2.2
    rw [hmark, Char.ofNat_toNat] at hsmall
    exact hsmall hplace

/-- No composite is a stray. -/
theorem composite_not_stray (h : composite? base c = some whole ∨ hangulComposite? base c = some whole) :
    isStray whole = false := by
  obtain ⟨-, -, hpairs, -⟩ := tables_checked
  rcases composite_cases h with ⟨m, hm, rfl⟩ | ⟨code, hfirst, hlast, rfl⟩
  · exact (hpairs m hm).1
  · exact (capital_of_hangul (Or.inr ⟨hfirst, hlast⟩)).2

/-- Characters that are not small compose to a small one only if the base is a stray. -/
theorem isStray_of_composite (hbase : isSmall base = false) (hc : isSmall c = false)
    (h : joinsBackward c = true ∧ composite? base c = some whole ∨ hangulComposite? base c = some whole)
    (hwhole : isSmall whole = true) : isStray base = true := by
  obtain ⟨-, -, hpairs, -⟩ := tables_checked
  rcases h with ⟨hback, h⟩ | h
  · obtain ⟨m, hm, hplace, hmark, rfl⟩ := composite_found h
    obtain ⟨-, -, hsmall, -⟩ := hpairs m hm
    rw [isStray, Bool.and_eq_true, decide_eq_true_eq, straySet, testBit_codeSet]
    refine ⟨?_, List.mem_map.mpr ⟨m, List.mem_filter.mpr ⟨hm, hwhole⟩, hplace⟩⟩
    -- In the basic plane the base is that of the pair, and small with it.
    by_contra hlow
    rcases hsmall hwhole with ⟨hbasic, hs⟩ | hiota
    · have hsame : m.2.1 = base.toNat := by
        simp only [planeOffset] at hplace
        omega
      rw [hsame, Char.ofNat_toNat, hbase] at hs
      simp at hs
    · rw [isSmall_of_iota hback (hmark ▸ hiota)] at hc
      simp at hc
  · obtain ⟨code, hfirst, hlast, rfl⟩ := hangulComposite_found h
    rw [(capital_of_hangul (Or.inr ⟨hfirst, hlast⟩)).1] at hwhole
    simp at hwhole

end Compositions

section Decompositions

/-- Only a character that is not decomposed can be a stray. -/
theorem decomposeWithin_cases (depth : Nat) {code : Nat} (h : isSmall (Char.ofNat code) = false) :
    decomposeWithin depth code = [code] ∨ ∀ n ∈ decomposeWithin depth code, Capital (Char.ofNat n) := by
  obtain ⟨-, -, hpairs, hsingles, -⟩ := tables_checked
  induction depth generalizing code with
  | zero => exact Or.inl rfl
  | succ depth ih =>
    -- What a mapping leads to is capital, whether it is decomposed any further or not.
    have hnext (other : Nat) (hother : Capital (Char.ofNat other)) :
        ∀ n ∈ decomposeWithin depth other, Capital (Char.ofNat n) := by
      rcases ih hother.1 with he | hall
      · simpa [he] using hother
      · exact hall
    unfold decomposeWithin
    split
    · rename_i base mark hm
      obtain ⟨-, hparts, -⟩ := hpairs _ (mem_of_lookup hm)
      right
      intro n hn
      rcases List.mem_append.mp hn with hn | hn
      · exact hnext base (hparts h).1 n hn
      · rw [List.mem_singleton.mp hn]
        exact (hparts h).2
    · split
      · rename_i other hm
        exact Or.inr (hnext other (hsingles _ (mem_of_lookup hm) h))
      · exact Or.inl rfl

theorem decomposeChar_cases {c : Char} (h : isSmall c = false) :
    decomposeChar c = [c] ∨ ∀ d ∈ decomposeChar c, Capital d := by
  unfold decomposeChar
  split_ifs with hlow hhangul
  · exact Or.inl rfl
  · right
    rw [Bool.and_eq_true, decide_eq_true_eq, decide_eq_true_eq] at hhangul
    intro d hd
    obtain ⟨n, hn, rfl⟩ := List.mem_map.mp hd
    exact capital_of_hangul (Or.inl (hangulParts_block hhangul n hn))
  · rw [← Char.ofNat_toNat c] at h
    rcases decomposeWithin_cases 3 h with he | hall
    · left
      rw [he, List.map_singleton, Char.ofNat_toNat]
    · right
      intro d hd
      obtain ⟨n, hn, rfl⟩ := List.mem_map.mp hd
      exact hall n hn

end Decompositions

section Strays

/-- The number of strays in a text. -/
def strays (cs : List Char) : Nat :=
  cs.countP isStray

theorem strays_append (cs ds : List Char) : strays (cs ++ ds) = strays cs + strays ds :=
  List.countP_append

theorem strays_singleton (c : Char) : strays [c] = if isStray c then 1 else 0 :=
  List.countP_singleton

theorem strays_of_capital {cs : List Char} (h : ∀ c ∈ cs, Capital c) : strays cs = 0 := by
  rw [strays, List.countP_eq_zero]
  intro c hc
  rw [(h c hc).2]
  simp

/-- Characters replaced one by one bring in no stray if none of them does. -/
theorem strays_flatMap_le {f : Char → List Char} {cs : List Char} (h : ∀ c ∈ cs, strays (f c) ≤ strays [c]) :
    strays (cs.flatMap f) ≤ strays cs := by
  induction cs with
  | nil => rfl
  | cons c cs ih =>
    have hc := h c (by simp)
    have hcs := ih fun d hd => h d (by simp [hd])
    rw [List.flatMap_cons, strays_append, ← List.singleton_append, strays_append]
    omega

theorem strays_decomposeChar {c : Char} (h : isSmall c = false) : strays (decomposeChar c) ≤ strays [c] := by
  rcases decomposeChar_cases h with he | hall
  · rw [he]
  · rw [strays_of_capital hall]
    exact Nat.zero_le _

theorem strays_upper_le (cs : List Char) : strays (upper cs) ≤ strays cs := by
  apply strays_flatMap_le
  intro c _
  by_cases h : isSmall c = true
  · rw [strays_of_capital fun d hd => upperChar_of_small h hd]
    exact Nat.zero_le _
  · rw [upperChar_of_not_small (by simpa using h)]

/-- A text composed of characters that are not small holds no more strays than these, and less if something small came
into it. -/
structure Settles (cs out : List Char) : Prop where
  strays_le : strays out ≤ strays cs
  strays_lt : (∃ c ∈ out, isSmall c = true) → strays out < strays cs

variable {cs ds out out' : List Char}

theorem settles_self (h : ∀ c ∈ cs, isSmall c = false) : Settles cs cs := by
  refine ⟨Nat.le_refl _, ?_⟩
  rintro ⟨c, hc, hsmall⟩
  rw [h c hc] at hsmall
  simp at hsmall

theorem Settles.of_le (h : Settles cs out) (hle : strays cs ≤ strays ds) : Settles ds out :=
  ⟨Nat.le_trans h.strays_le hle, fun hsmall => Nat.lt_of_lt_of_le (h.strays_lt hsmall) hle⟩

theorem Settles.append (h : Settles cs out) (h' : Settles ds out') : Settles (cs ++ ds) (out ++ out') := by
  have hle := h.strays_le
  have hle' := h'.strays_le
  refine ⟨?_, ?_⟩
  · rw [strays_append, strays_append]
    omega
  · rintro ⟨c, hc, hsmall⟩
    rw [strays_append, strays_append]
    rcases List.mem_append.mp hc with hc | hc
    · have hlt := h.strays_lt ⟨c, hc, hsmall⟩
      omega
    · have hlt := h'.strays_lt ⟨c, hc, hsmall⟩
      omega

theorem tracks_settles :
    Composing.Tracks (fun c => isSmall c = false) fun cs text => Settles cs text.toList where
  rebase cs text h := by
    rw [Composing.toList_rebase]
    exact h
  push cs text c h hc := by
    rw [Composing.toList_push]
    apply h.append
    apply settles_self
    simpa using hc
  join cs text c whole h hc hw := by
    have hcount (base : Char) : strays ({ text with base := base } : Composing).toList =
        strays text.before.reverse + strays [base] + strays text.after.reverse := by
      rw [Composing.toList, ← List.singleton_append, ← List.append_assoc, strays_append, strays_append]
    have hbefore : strays text.toList = _ := hcount text.base
    have hwhole : strays [whole] = 0 := by
      rw [strays_singleton, composite_not_stray (hw.imp_left And.right)]
      rfl
    have hle := h.strays_le
    refine ⟨?_, ?_⟩
    · rw [hcount, strays_append]
      omega
    · rintro ⟨d, hd, hsmall⟩
      rw [hcount, strays_append]
      by_cases hold : ∃ e ∈ text.toList, isSmall e = true
      · have hlt := h.strays_lt hold
        omega
      · -- Nothing was small before, so what came in is, and a stray was lost for it.
        have hnone (e : Char) (he : e ∈ text.toList) : isSmall e = false := by
          simpa using fun hs => hold ⟨e, he, hs⟩
        have hd' : d = whole := by
          by_contra hne
          have hin : d ∈ text.toList := by
            simp only [Composing.toList, List.mem_append, List.mem_cons] at hd ⊢
            tauto
          rw [hnone d hin] at hsmall
          simp at hsmall
        have hbase := hnone text.base (by simp [Composing.toList])
        have hstray : strays [text.base] = 1 := by
          rw [strays_singleton, isStray_of_composite hbase hc hw (hd' ▸ hsmall)]
          rfl
        omega

theorem settles_compose (h : ∀ c ∈ cs, isSmall c = false) : Settles cs (compose cs) := by
  cases cs with
  | nil => exact settles_self (by simp)
  | cons c cs =>
    have hc : ∀ d ∈ [c], isSmall d = false := by simpa using h c (by simp)
    exact tracks_settles.addAll cs [c] ⟨[], c, []⟩ (settles_self hc) fun d hd => h d (by simp [hd])

theorem settles_segment (h : ∀ c ∈ cs, isSmall c = false) :
    Settles cs (compose (order (cs.flatMap decomposeChar))) := by
  have hperm := order_perm (cs.flatMap decomposeChar)
  have hparts : ∀ d ∈ order (cs.flatMap decomposeChar), isSmall d = false := by
    intro d hd
    obtain ⟨c, hc, hd⟩ := List.mem_flatMap.mp (hperm.mem_iff.mp hd)
    rcases decomposeChar_cases (h c hc) with he | hall
    · rw [he, List.mem_singleton] at hd
      rw [hd]
      exact h c hc
    · exact (hall d hd).1
  have hle : strays (order (cs.flatMap decomposeChar)) ≤ strays cs := by
    rw [strays, hperm.countP_eq]
    exact strays_flatMap_le fun c hc => strays_decomposeChar (h c hc)
  exact (settles_compose hparts).of_le hle

theorem joiner_capital : Capital joiner := by
  obtain ⟨-, -, -, -, -, hsmall, -⟩ := tables_checked
  exact ⟨hsmall, isStray_of_basic (by decide)⟩

/-- Cutting a text into segments adds nothing but joiners. -/
theorem segments_flatten (run : Nat) (segment cs : List Char) :
    (segments run segment cs).flatten.filter (· != joiner) = (segment.reverse ++ cs).filter (· != joiner) := by
  induction cs generalizing run segment with
  | nil => simp [segments]
  | cons c cs ih =>
    unfold segments
    dsimp only
    split_ifs
    · simp [List.filter_append, ih]
    · simp [List.filter_append, ih]
    · simp [ih]

theorem strays_filter (cs : List Char) : strays (cs.filter (· != joiner)) = strays cs := by
  rw [strays, strays, List.countP_filter]
  apply List.countP_congr
  intro c _
  rw [Bool.and_eq_true, bne_iff_ne, and_iff_left_iff_imp]
  rintro hstray rfl
  rw [joiner_capital.2] at hstray
  simp at hstray

theorem settles_normal (h : ∀ c ∈ cs, isSmall c = false) : Settles cs (normal cs) := by
  have hflatten := segments_flatten 0 [] cs
  rw [List.reverse_nil, List.nil_append] at hflatten
  have hsegments : ∀ s ∈ segments 0 [] cs, ∀ c ∈ s, isSmall c = false := by
    intro s hs c hc
    by_cases hjoiner : c = joiner
    · rw [hjoiner]
      exact joiner_capital.1
    · have hkept : c ∈ (segments 0 [] cs).flatten.filter (· != joiner) :=
        List.mem_filter.mpr ⟨List.mem_flatten.mpr ⟨s, hs, hc⟩, bne_iff_ne.mpr hjoiner⟩
      rw [hflatten] at hkept
      exact h c (List.mem_filter.mp hkept).1
  -- Each segment settles on its own.
  have hjoin (parts : List (List Char)) (hparts : ∀ s ∈ parts, ∀ c ∈ s, isSmall c = false) : Settles parts.flatten
      (parts.flatMap fun s => compose (order (s.flatMap decomposeChar))) := by
    induction parts with
    | nil => exact settles_self (by simp)
    | cons s parts ih =>
      rw [List.flatten_cons, List.flatMap_cons]
      exact (settles_segment (hparts s (by simp))).append (ih fun t ht => hparts t (by simp [ht]))
  apply (hjoin _ hsegments).of_le
  rw [← strays_filter, hflatten, strays_filter]

end Strays

theorem upper_of_not_small {cs : List Char} (h : ∀ c ∈ cs, isSmall c = false) : upper cs = cs := by
  calc
    upper cs = cs.flatMap fun c => [c] := List.flatMap_congr fun c hc => upperChar_of_not_small (h c hc)
    _ = cs := List.flatMap_singleton' cs

theorem not_small_of_mem_upper {cs : List Char} {d : Char} (hd : d ∈ upper cs) : isSmall d = false := by
  obtain ⟨c, -, hd⟩ := List.mem_flatMap.mp hd
  by_cases h : isSmall c = true
  · exact (upperChar_of_small h hd).1
  · have hc : isSmall c = false := by simpa using h
    rw [upperChar_of_not_small hc, List.mem_singleton] at hd
    rw [hd, hc]

/-- A text in upper case that composition changes is not brought back by upper-casing. -/
theorem normal_of_upper_normal {cs : List Char} (h : ∀ c ∈ cs, isSmall c = false) (hu : upper (normal cs) = cs) :
    normal cs = cs := by
  have hsettles := settles_normal h
  by_cases hsmall : ∃ c ∈ normal cs, isSmall c = true
  · -- The strays that were lost would have to come back.
    have hlt := hsettles.strays_lt hsmall
    have hle := strays_upper_le (normal cs)
    rw [hu] at hle
    omega
  · have hsame : upper (normal cs) = normal cs := by
      apply upper_of_not_small
      intro c hc
      simpa using fun hs => hsmall ⟨c, hc, hs⟩
    rw [← hsame, hu]

/-- A word in composed form. -/
def IsComposed (word : String) : Prop :=
  normal word.toList = word.toList

instance (word : String) : Decidable (IsComposed word) :=
  inferInstanceAs (Decidable (_ = _))

/-- Folding a folded word again leaves it as it is exactly if it is in composed form. -/
theorem fold_fold_iff (word : String) : fold (fold word) = fold word ↔ IsComposed (fold word) := by
  have hsmall : ∀ c ∈ (fold word).toList, isSmall c = false := by
    rw [fold_toList]
    exact fun c => not_small_of_mem_upper
  have hfold : fold (fold word) = fold word ↔ upper (normal (fold word).toList) = (fold word).toList := by
    rw [← String.toList_inj, fold_toList (fold word)]
    rfl
  rw [hfold, IsComposed]
  constructor
  · exact normal_of_upper_normal hsmall
  · intro h
    rw [h, upper_of_not_small hsmall]

end Keystroke.Text

namespace Keystroke.Command

open Keystroke.Text
set_option maxRecDepth 20000

variable {root : Node} {aliases shortcuts : List Alias} {shifts : List (String × Shift)} {a : Alias}

theorem exists_declared (ha : a ∈ (Table.build root aliases shortcuts shifts).aliases) :
    ∃ b ∈ aliases, fold b.spelling = a.spelling := by
  have hin := List.mem_map_of_mem (f := Alias.spelling) ha
  have hdeclared := ((build_records_aliases root aliases shortcuts shifts).shown a.spelling).mp hin
  exact List.mem_map.mp hdeclared

theorem found_of_fold (ha : a ∈ (Table.build root aliases shortcuts shifts).aliases)
    (h : fold a.spelling = a.spelling) :
    (Table.build root aliases shortcuts shifts).canonical? (fold a.spelling) = some a.token := by
  rw [h]
  exact (build_records_aliases root aliases shortcuts shifts).agrees a ha

/-- A spelling that is shown can be typed as it is shown exactly if it is in composed form: then it folds to itself, and
its token is found. Any word that is folded twice is changed exactly if its first fold is not in composed form. -/
theorem shown_spelling_typed_iff (root : Node) (aliases shortcuts : List Alias) (shifts : List (String × Shift)) :
    let table := Table.build root aliases shortcuts shifts
    (∀ a ∈ table.aliases, a ∈ (Dump.ofTable table).aliases ∧
      (fold a.spelling = a.spelling ∧ table.canonical? (fold a.spelling) = some a.token ↔ IsComposed a.spelling)) ∧
    ∀ word, fold (fold word) = fold word ↔ IsComposed (fold word) := by
  intro table
  refine ⟨?_, fold_fold_iff⟩
  intro a ha
  obtain ⟨b, -, hb⟩ := exists_declared ha
  have hiff : fold a.spelling = a.spelling ↔ IsComposed a.spelling := by
    rw [← hb]
    exact fold_fold_iff b.spelling
  refine ⟨ha, ?_⟩
  rw [← hiff, and_iff_left_iff_imp]
  exact found_of_fold ha

/-- Upper-casing splits the first spelling into three characters, of which two compose again; the second spelling is
composed before it is upper-cased. -/
def accentedAliases : List Alias :=
  [⟨"\u03b0", "X"⟩, ⟨"x=\u0338y", "TEST 6"⟩]

theorem shown_spelling_typed_iff_accented :
    let table := Table.build (Node.leaf "") accentedAliases [] []
    (⟨"\u03a5\u0308\u0301", "X"⟩ ∈ table.aliases ∧ fold "\u03a5\u0308\u0301" ≠ "\u03a5\u0308\u0301" ∧
      table.canonical? (fold "\u03a5\u0308\u0301") = none) ∧
    (⟨"X≠Y", "TEST 6"⟩ ∈ table.aliases ∧ fold "X≠Y" = "X≠Y" ∧ table.canonical? (fold "X≠Y") = some "TEST 6") := by
  intro table
  have hshown : table.aliases = [⟨"\u03a5\u0308\u0301", "X"⟩, ⟨"X≠Y", "TEST 6"⟩] := by decide
  obtain ⟨htyped, -⟩ := shown_spelling_typed_iff (Node.leaf "") accentedAliases [] []
  have hsplit : (⟨"\u03a5\u0308\u0301", "X"⟩ : Alias) ∈ table.aliases := by simp [hshown]
  have hcomposed : (⟨"X≠Y", "TEST 6"⟩ : Alias) ∈ table.aliases := by simp [hshown]
  have hnone : table.canonical? (fold "\u03a5\u0308\u0301") = none := by
    rw [Table.canonical?, hshown]
    decide
  refine ⟨⟨hsplit, ?_, hnone⟩, hcomposed, (htyped _ hcomposed).2.mpr (by decide)⟩
  intro hfold
  have hno : ¬ IsComposed "\u03a5\u0308\u0301" := by decide
  exact hno ((htyped _ hsplit).2.mp ⟨hfold, found_of_fold hsplit hfold⟩)

/-- On the HP-15C every spelling can be typed as it is shown. -/
theorem standard_spelling_typed (ha : a ∈ Table.standard.aliases) :
    fold a.spelling = a.spelling ∧ Table.standard.canonical? (fold a.spelling) = some a.token := by
  obtain ⟨b, hb, hspelling⟩ := exists_declared ha
  have hfold : fold a.spelling = a.spelling := by
    rw [← hspelling]
    rcases fold_standard_spelling b hb with hf | ⟨-, hf⟩ | ⟨-, hf⟩
    · rw [hf, hf]
    · rw [hf, fold_of_spelled (by decide)]
    · rw [hf, fold_of_spelled (by decide)]
  exact ⟨hfold, found_of_fold ha hfold⟩

end Keystroke.Command
