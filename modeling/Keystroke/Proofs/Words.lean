import Keystroke.Text.Blank
import Mathlib.Data.List.Basic

/-! Words and lines can be written down and read back: the words of a text joined by blanks are the words
of the joined text, and lines of such words joined by line feeds are its lines. -/
namespace Keystroke.Text

/-- A non-empty run without white space. -/
structure IsWord (cs : List Char) : Prop where
  ne_nil : cs ≠ []
  not_blank : ∀ c ∈ cs, isBlank c = false

theorem pendingWord_isWord {word : List Char} (h : ∀ c ∈ word, isBlank c = false) :
    ∀ w ∈ pendingWord word, IsWord w := by
  intro w hw
  unfold pendingWord at hw
  split_ifs at hw with hempty
  · simp at hw
  · rw [List.mem_singleton.mp hw]
    exact ⟨by simpa using hempty, by simpa using h⟩

theorem wordsFrom_isWord {word cs : List Char} (h : ∀ c ∈ word, isBlank c = false) :
    ∀ w ∈ wordsFrom word cs, IsWord w := by
  induction cs generalizing word with
  | nil => exact pendingWord_isWord h
  | cons c cs ih =>
    intro w hw
    unfold wordsFrom at hw
    split_ifs at hw with hc
    · rcases List.mem_append.mp hw with hw | hw
      · exact pendingWord_isWord h w hw
      · exact ih (by simp) w hw
    · refine ih ?_ w hw
      rw [Bool.not_eq_true] at hc
      simpa using ⟨hc, h⟩

theorem isWord_of_mem_words {text word : String} (h : word ∈ words text) : IsWord word.toList := by
  obtain ⟨w, hw, rfl⟩ := List.mem_map.mp h
  rw [String.toList_ofList]
  exact wordsFrom_isWord (by simp) w hw

/-- Characters that are not blank join the word that was begun. -/
theorem wordsFrom_append {cs : List Char} (h : ∀ c ∈ cs, isBlank c = false) (word rest : List Char) :
    wordsFrom word (cs ++ rest) = wordsFrom (cs.reverse ++ word) rest := by
  induction cs generalizing word with
  | nil => rfl
  | cons c cs ih =>
    have hc : isBlank c = false := h c (by simp)
    rw [List.cons_append, wordsFrom, hc, if_neg (by simp), ih (fun d hd => h d (by simp [hd]))]
    simp

theorem pendingWord_reverse {cs : List Char} (h : IsWord cs) : pendingWord cs.reverse = [cs] := by
  simp [pendingWord, h.ne_nil]

theorem wordsFrom_intercalate {ws : List (List Char)} (h : ∀ w ∈ ws, IsWord w) :
    wordsFrom [] ([' '].intercalate ws) = ws := by
  induction ws with
  | nil => rfl
  | cons w ws ih =>
    have hw : IsWord w := h w (by simp)
    have hpending : wordsFrom w.reverse [] = [w] := pendingWord_reverse hw
    cases ws with
    | nil =>
      have hone := wordsFrom_append hw.not_blank [] []
      rw [List.append_nil, List.append_nil, hpending] at hone
      rw [List.intercalate_singleton, hone]
    | cons next ws =>
      -- The blank after the first word ends it.
      have hblank : isBlank ' ' = true := rfl
      rw [List.intercalate_cons_cons, List.append_assoc, wordsFrom_append hw.not_blank,
        List.append_nil, List.cons_append, wordsFrom, hblank, if_pos rfl, pendingWord_reverse hw]
      exact congrArg (w :: ·) (ih fun v hv => h v (by simp [hv]))

/-- Words joined by blanks are the words of the text. -/
theorem words_intercalate {ws : List String} (h : ∀ w ∈ ws, IsWord w.toList) :
    words (" ".intercalate ws) = ws := by
  rw [words, String.toList_intercalate, show " ".toList = [' '] from rfl,
    wordsFrom_intercalate (by simpa using h)]
  simp

/-- A line of words as they are joined. -/
structure IsLine (cs : List Char) : Prop where
  starts : ∃ c rest, cs = c :: rest ∧ isBlank c = false
  no_feed : '\n' ∉ cs
  no_return : '\r' ∉ cs

theorem mem_of_mem_intercalate {sep : List Char} {parts : List (List Char)} {c : Char}
    (h : c ∈ sep.intercalate parts) : c ∈ sep ∨ ∃ part ∈ parts, c ∈ part := by
  induction parts with
  | nil => simp at h
  | cons part parts ih =>
    cases parts with
    | nil => exact Or.inr ⟨part, by simp, by simpa using h⟩
    | cons next parts =>
      rw [List.intercalate_cons_cons, List.mem_append, List.mem_append] at h
      rcases h with (hpart | hsep) | hrest
      · exact Or.inr ⟨part, by simp, hpart⟩
      · exact Or.inl hsep
      · exact (ih hrest).imp_right fun ⟨p, hp, hc⟩ => ⟨p, by simp [hp], hc⟩

theorem prefix_intercalate (sep part : List Char) (parts : List (List Char)) :
    part <+: sep.intercalate (part :: parts) := by
  cases parts with
  | nil => simp
  | cons next parts => simp [List.intercalate_cons_cons]

theorem isLine_intercalate {ws : List (List Char)} (hne : ws ≠ []) (h : ∀ w ∈ ws, IsWord w) :
    IsLine ([' '].intercalate ws) := by
  -- The only white space on the line are the blanks between its words.
  have hnot {c : Char} (hsep : c ∉ [' ']) (hc : isBlank c = true) : c ∉ [' '].intercalate ws := by
    intro hmem
    obtain ⟨w, hw, hcw⟩ := (mem_of_mem_intercalate hmem).resolve_left hsep
    rw [(h w hw).not_blank c hcw] at hc
    exact Bool.noConfusion hc
  refine ⟨?_, hnot (by decide) rfl, hnot (by decide) rfl⟩
  obtain ⟨w, ws, rfl⟩ := List.exists_cons_of_ne_nil hne
  have hw : IsWord w := h w (by simp)
  obtain ⟨tail, ht⟩ := prefix_intercalate [' '] w ws
  obtain ⟨c, rest, rfl⟩ := List.exists_cons_of_ne_nil hw.ne_nil
  exact ⟨c, rest ++ tail, ht.symm, hw.not_blank c (by simp)⟩

theorem splitFeed_of_not_mem {cs : List Char} (h : '\n' ∉ cs) : splitFeed cs = [cs] := by
  induction cs with
  | nil => rfl
  | cons c cs ih =>
    rw [List.mem_cons, not_or] at h
    rw [splitFeed, if_neg (Ne.symm h.1), ih h.2]
    rfl

theorem splitFeed_append {cs : List Char} (h : '\n' ∉ cs) (rest : List Char) :
    splitFeed (cs ++ '\n' :: rest) = cs :: splitFeed rest := by
  induction cs with
  | nil => rfl
  | cons c cs ih =>
    rw [List.mem_cons, not_or] at h
    rw [List.cons_append, splitFeed, if_neg (Ne.symm h.1), ih h.2]
    rfl

theorem splitFeed_intercalate {ls : List (List Char)} (hne : ls ≠ []) (h : ∀ l ∈ ls, '\n' ∉ l) :
    splitFeed (['\n'].intercalate ls) = ls := by
  induction ls with
  | nil => exact absurd rfl hne
  | cons l ls ih =>
    have hl : '\n' ∉ l := h l (by simp)
    cases ls with
    | nil => rw [List.intercalate_singleton, splitFeed_of_not_mem hl]
    | cons next ls =>
      rw [List.intercalate_cons_cons, List.append_assoc, List.singleton_append, splitFeed_append hl,
        ih (by simp) fun m hm => h m (by simp [hm])]

theorem hasReturnFeed_of_not_mem {cs : List Char} (h : '\r' ∉ cs) : hasReturnFeed cs = false := by
  fun_induction hasReturnFeed cs with
  | case1 => rfl
  | case2 => simp at h
  | case3 c cs _ ih => exact ih (by simp_all)

theorem lineChars_intercalate {ls : List (List Char)} (h : ∀ l ∈ ls, IsLine l) :
    lineChars (['\n'].intercalate ls) = ls := by
  cases ls with
  | nil => rfl
  | cons l ls =>
    have hfeed := splitFeed_intercalate (List.cons_ne_nil l ls) fun m hm => (h m hm).no_feed
    have hreturn : hasReturnFeed (['\n'].intercalate (l :: ls)) = false := by
      refine hasReturnFeed_of_not_mem fun hmem => ?_
      obtain ⟨m, hm, hc⟩ := (mem_of_mem_intercalate hmem).resolve_left (by decide)
      exact (h m hm).no_return hc
    obtain ⟨c, rest, rfl, hc⟩ := (h l (by simp)).starts
    obtain ⟨tail, ht⟩ := prefix_intercalate ['\n'] (c :: rest) ls
    rw [← ht, List.cons_append] at hfeed hreturn ⊢
    simp [lineChars, hc, hreturn, hfeed]

/-- Lines joined by line feeds are the lines of the text. -/
theorem lines_intercalate {ls : List String} (h : ∀ l ∈ ls, IsLine l.toList) :
    lines ("\n".intercalate ls) = ls := by
  rw [lines, String.toList_intercalate, show "\n".toList = ['\n'] from rfl,
    lineChars_intercalate (by simpa using h)]
  simp

end Keystroke.Text
