import Keystroke.Proofs.Layout
import Keystroke.Proofs.Locality

/-! A conversion as steps over the lines that are left, each given by its words: a line without words is
passed over, and any other line has the statement at its front read and listed. A conversion ends with a
listing if the steps go on until no line is left, and with a fault if they come to a statement that cannot be
read or listed. -/
namespace Keystroke.Listing

open Keystroke.Command Keystroke.Statement Keystroke.Text

/-- The words that a line goes on with behind a statement. -/
def Converter.next (conv : Converter) (words : List String) (r : Resolution) : List String :=
  if conv.options.onePerLine then []
  else if words.length ≤ r.rest.length then words.tail
  else r.rest

/-- A statement that was listed. -/
structure Listed where
  resolution : Resolution
  entries : List Entry

/-- One step from the lines that are left, with the statement it lists if there is one. -/
inductive Move (conv : Converter) : List (List String) → List Listed → List (List String) → Prop
  | blank (ls : List (List String)) : Move conv ([] :: ls) [] ls
  | statement {words : List String} {r : Resolution} {es : List Entry} (ls : List (List String)) :
    words ≠ [] → resolve conv.table words = .ok r → conv.entries r = .ok es →
    Move conv (words :: ls) [⟨r, es⟩] (conv.next words r :: ls)

/-- Steps one after the other, with the statements they list. -/
inductive Execution (conv : Converter) : List (List String) → List Listed → List (List String) → Prop
  | refl (ls : List (List String)) : Execution conv ls [] ls
  | step {ls mid out : List (List String)} {here done : List Listed} :
    Move conv ls here mid → Execution conv mid done out → Execution conv ls (here ++ done) out

/-- The next statement cannot be read, or what was read cannot be listed. -/
inductive Halts (conv : Converter) : List (List String) → Fault → Prop
  | reading {words : List String} {fault : Fault} (ls : List (List String)) :
    resolve conv.table words = .error fault → Halts conv (words :: ls) fault
  | listing {words : List String} {r : Resolution} {fault : Fault} (ls : List (List String)) :
    resolve conv.table words = .ok r → conv.entries r = .error fault → Halts conv (words :: ls) fault

/-- Entries in order, up to the first fault. -/
def collect : List (Except Fault (List Entry)) → Except Fault (List Entry)
  | [] => .ok []
  | .error fault :: _ => .error fault
  | .ok es :: rest => (collect rest).map (es ++ ·)

theorem gather_snd (steps : List Step) : (gather steps).2 = collect (steps.map Step.result) := by
  induction steps with
  | nil => rfl
  | cons step steps ih =>
    rw [gather, List.map_cons]
    generalize gather steps = gathered at ih ⊢
    obtain ⟨log, result⟩ := gathered
    cases step.result with
    | error fault => rfl
    | ok es =>
      rw [collect, ← ih]
      cases result <;> rfl

theorem collect_append (xs ys : List (Except Fault (List Entry))) :
    collect (xs ++ ys) = (collect xs).bind fun es => (collect ys).map (es ++ ·) := by
  induction xs with
  | nil =>
    rw [List.nil_append, collect]
    cases collect ys <;> rfl
  | cons x xs ih =>
    cases x with
    | error fault => rfl
    | ok es =>
      rw [List.cons_append, collect, collect, ih]
      cases collect xs with
      | error fault => rfl
      | ok others =>
        cases collect ys with
        | error fault => rfl
        | ok more => simp [Except.map, Except.bind]

/-- The results of the statements of a line. -/
def Converter.lineResults (conv : Converter) (words : List String) : List (Except Fault (List Entry)) :=
  (conv.lineSteps 0 words.length words).map Step.result

/-- The entries of the lines that are left. -/
def Converter.outcome (conv : Converter) (ls : List (List String)) : Except Fault (List Entry) :=
  collect (ls.flatMap conv.lineResults)

variable {conv : Converter}

theorem next_length_lt (conv : Converter) {words : List String} (h : words ≠ []) (r : Resolution) :
    (conv.next words r).length < words.length := by
  have hpos : 0 < words.length := List.length_pos_of_ne_nil h
  unfold Converter.next
  split_ifs
  · exact hpos
  · rw [List.length_tail]
    omega
  · omega

theorem lineSteps_nil (conv : Converter) (line fuel : Nat) : conv.lineSteps line fuel [] = [] := by
  cases fuel <;> rfl

theorem lineSteps_succ (conv : Converter) (line fuel : Nat) {words : List String} (h : words ≠ []) :
    (conv.lineSteps line (fuel + 1) words).map Step.result =
      match resolve conv.table words with
      | .error fault => [.error fault]
      | .ok r => conv.entries r :: (conv.lineSteps line fuel (conv.next words r)).map Step.result := by
  obtain ⟨word, others, rfl⟩ := List.exists_cons_of_ne_nil h
  rw [Converter.lineSteps]
  cases resolve conv.table (word :: others) with
  | error fault => rfl
  | ok r =>
    by_cases ho : conv.options.onePerLine = true
    · simp [Converter.next, ho, lineSteps_nil]
    · simp [Converter.next, ho]

/-- The results of a line do not depend on its number, nor on the fuel as long as it suffices. -/
theorem lineSteps_results (conv : Converter) (line fuel : Nat) (words : List String)
    (hf : words.length ≤ fuel) :
    (conv.lineSteps line fuel words).map Step.result = conv.lineResults words := by
  -- On the number of words, since what a statement leaves has fewer.
  induction hn : words.length using Nat.strong_induction_on generalizing words line fuel with
  | _ n ih =>
    subst hn
    unfold Converter.lineResults
    by_cases hne : words = []
    · rw [hne, lineSteps_nil, lineSteps_nil]
    · have hpos : 0 < words.length := List.length_pos_of_ne_nil hne
      obtain ⟨fuel, rfl⟩ := Nat.exists_eq_add_one_of_ne_zero (show fuel ≠ 0 by omega)
      obtain ⟨count, hcount⟩ := Nat.exists_eq_add_one_of_ne_zero hpos.ne'
      rw [hcount, lineSteps_succ conv line fuel hne, lineSteps_succ conv 0 count hne]
      cases resolve conv.table words with
      | error fault => rfl
      | ok r =>
        have hlt := next_length_lt conv hne r
        have hrest (line fuel : Nat) (hf : count ≤ fuel) :=
          ih _ hlt line fuel (conv.next words r) (by omega) rfl
        dsimp only
        rw [hrest line fuel (by omega), hrest 0 count le_rfl]

theorem lineResults_eq (conv : Converter) {words : List String} (h : words ≠ []) :
    conv.lineResults words =
      match resolve conv.table words with
      | .error fault => [.error fault]
      | .ok r => conv.entries r :: conv.lineResults (conv.next words r) := by
  rw [← lineSteps_results conv 0 (words.length + 1) words (Nat.le_succ _), lineSteps_succ conv 0 _ h]
  cases resolve conv.table words with
  | error fault => rfl
  | ok r =>
    have hlt := next_length_lt conv h r
    dsimp only
    rw [lineSteps_results conv 0 _ _ (Nat.le_of_lt hlt)]

theorem stepsFrom_map_result (conv : Converter) (line : Nat) (ls : List String) :
    (conv.stepsFrom line ls).map Step.result = (ls.map words).flatMap conv.lineResults := by
  induction ls generalizing line with
  | nil => rfl
  | cons l ls ih =>
    rw [Converter.stepsFrom, List.map_append, ih, lineSteps_results conv line _ _ le_rfl]
    rfl

theorem listed_eq_outcome (conv : Converter) (text : String) :
    conv.listed text = conv.outcome (wordLines text) := by
  rw [Converter.listed, gather_snd, stepsFrom_map_result]
  rfl

theorem outcome_append (conv : Converter) (ls ms : List (List String)) :
    conv.outcome (ls ++ ms) =
      (conv.outcome ls).bind fun es => (conv.outcome ms).map (es ++ ·) := by
  rw [Converter.outcome, List.flatMap_append, collect_append]
  rfl

theorem outcome_nonblank (conv : Converter) (ls : List (List String)) :
    conv.outcome (ls.filter (!·.isEmpty)) = conv.outcome ls := by
  unfold Converter.outcome
  congr 1
  induction ls with
  | nil => rfl
  | cons l ls ih =>
    cases l with
    | nil => exact ih
    | cons word others =>
      rw [List.filter_cons_of_pos (by rfl), List.flatMap_cons, List.flatMap_cons, ih]

theorem Move.outcome_eq {ls mid : List (List String)} {here : List Listed} (h : Move conv ls here mid) :
    conv.outcome ls = (conv.outcome mid).map (here.flatMap Listed.entries ++ ·) := by
  cases h with
  | blank =>
    change conv.outcome mid = _
    cases conv.outcome mid <;> rfl
  | @statement words r es ls hne hr he =>
    have hline := lineResults_eq conv hne
    rw [hr] at hline
    dsimp only at hline
    rw [Converter.outcome, List.flatMap_cons, hline, he, List.cons_append, collect,
      List.flatMap_singleton]
    rfl

theorem Execution.outcome_eq {ls out : List (List String)} {done : List Listed}
    (h : Execution conv ls done out) :
    conv.outcome ls = (conv.outcome out).map (done.flatMap Listed.entries ++ ·) := by
  induction h with
  | refl ls => cases conv.outcome ls <;> rfl
  | @step ls mid out here done hm _ ih =>
    rw [hm.outcome_eq, ih]
    cases conv.outcome out with
    | error fault => rfl
    | ok es => simp [Except.map]

theorem Halts.ne_nil {words : List String} {ls : List (List String)} {fault : Fault}
    (h : Halts conv (words :: ls) fault) : words ≠ [] := by
  rintro rfl
  have hempty : resolve conv.table [] = .ok {} := rfl
  cases h with
  | reading _ hr => simp [hempty] at hr
  | listing _ hr he =>
    rw [hempty, Except.ok.injEq] at hr
    subst hr
    simp [Converter.entries, Converter.withRemarks, Entry.ofRecords] at he

theorem Halts.outcome_eq {ls : List (List String)} {fault : Fault} (h : Halts conv ls fault) :
    conv.outcome ls = .error fault := by
  obtain ⟨words, rest, rfl⟩ : ∃ words rest, ls = words :: rest := by
    cases h <;> exact ⟨_, _, rfl⟩
  have hline := lineResults_eq conv h.ne_nil
  rw [Converter.outcome, List.flatMap_cons, hline]
  cases h with
  | reading _ hr =>
    rw [hr]
    rfl
  | listing _ hr he =>
    rw [hr]
    dsimp only
    rw [he]
    rfl

/-- A line that is a single statement. -/
theorem Execution.line {words : List String} {s : Listed}
    {ls out : List (List String)} {done : List Listed} (hne : words ≠ [])
    (hr : resolve conv.table words = .ok s.resolution) (he : conv.entries s.resolution = .ok s.entries)
    (hn : conv.next words s.resolution = []) (h : Execution conv ls done out) :
    Execution conv (words :: ls) (s :: done) out := by
  have hmove : Move conv (words :: ls) [s] ([] :: ls) := hn ▸ .statement ls hne hr he
  exact .step hmove (.step (.blank ls) h)

/-- From all lines the steps go on until no line is left or they come to a fault. -/
theorem exists_execution (conv : Converter) (ls : List (List String)) :
    ∃ done out, Execution conv ls done out ∧ (out = [] ∨ ∃ fault, Halts conv out fault) := by
  -- Each step takes away a line or at least one word of it.
  induction hn : (ls.map fun words => words.length + 1).sum using Nat.strong_induction_on
    generalizing ls with
  | _ n ih =>
    rcases ls with _ | ⟨_ | ⟨word, others⟩, ls⟩
    · exact ⟨[], [], .refl [], Or.inl rfl⟩
    · have hlt : (ls.map fun words => words.length + 1).sum < n := by
        rw [← hn, List.map_cons, List.sum_cons]
        omega
      obtain ⟨done, out, hex, hend⟩ := ih _ hlt ls rfl
      exact ⟨done, out, .step (.blank ls) hex, hend⟩
    · cases hr : resolve conv.table (word :: others) with
      | error fault => exact ⟨[], _, .refl _, Or.inr ⟨fault, .reading ls hr⟩⟩
      | ok r =>
        cases he : conv.entries r with
        | error fault => exact ⟨[], _, .refl _, Or.inr ⟨fault, .listing ls hr he⟩⟩
        | ok es =>
          have hshort := next_length_lt conv (List.cons_ne_nil word others) r
          have hlt : ((conv.next (word :: others) r :: ls).map fun words => words.length + 1).sum < n := by
            rw [← hn, List.map_cons, List.sum_cons, List.map_cons, List.sum_cons]
            omega
          obtain ⟨done, out, hex, hend⟩ := ih _ hlt _ rfl
          exact ⟨_, out, .step (.statement ls (List.cons_ne_nil word others) hr he) hex, hend⟩

/-- A listing is complete when the steps have come to the end of the lines. -/
theorem outcome_ok_iff (conv : Converter) (ls : List (List String)) (es : List Entry) :
    conv.outcome ls = .ok es ↔
      ∃ done, Execution conv ls done [] ∧ es = done.flatMap Listed.entries := by
  constructor
  · intro h
    obtain ⟨done, out, hex, rfl | ⟨fault, hhalt⟩⟩ := exists_execution conv ls
    · have he := hex.outcome_eq
      rw [h, show conv.outcome [] = .ok [] from rfl] at he
      exact ⟨done, hex, by simpa [Except.map] using he⟩
    · rw [hex.outcome_eq, hhalt.outcome_eq] at h
      simp [Except.map] at h
  · rintro ⟨done, hex, rfl⟩
    rw [hex.outcome_eq]
    simp [Converter.outcome, collect, Except.map]

theorem Execution.listing_eq {text : String} {done : List Listed}
    (h : Execution conv (wordLines text) done []) :
    (conv.convert text).listing = .ok (renderFrom 1 (done.flatMap Listed.entries)) := by
  apply convert_listing
  rw [listed_eq_outcome, outcome_ok_iff]
  exact ⟨done, h, rfl⟩

theorem outcome_error_iff (conv : Converter) (ls : List (List String)) (fault : Fault) :
    conv.outcome ls = .error fault ↔ ∃ done out, Execution conv ls done out ∧ Halts conv out fault := by
  constructor
  · intro h
    obtain ⟨done, out, hex, rfl | ⟨fault', hhalt⟩⟩ := exists_execution conv ls
    · rw [(outcome_ok_iff conv ls _).mpr ⟨done, hex, rfl⟩] at h
      simp at h
    · have he := hex.outcome_eq
      rw [h, hhalt.outcome_eq] at he
      obtain rfl : fault = fault' := by simpa [Except.map] using he
      exact ⟨done, out, hex, hhalt⟩
  · rintro ⟨done, out, hex, hhalt⟩
    rw [hex.outcome_eq, hhalt.outcome_eq]
    rfl

/-- What every step preserves and gives holds of all lines that are left and all statements listed. -/
theorem Execution.preserves {ls out : List (List String)} {done : List Listed}
    {P : List (List String) → Prop} {Q : Listed → Prop} (h : Execution conv ls done out)
    (hstep : ∀ ls here mid, P ls → Move conv ls here mid → P mid ∧ ∀ s ∈ here, Q s) (hls : P ls) :
    P out ∧ ∀ s ∈ done, Q s := by
  induction h with
  | refl => exact ⟨hls, by simp⟩
  | @step ls mid out here done hm _ ih =>
    obtain ⟨hmid, hhere⟩ := hstep ls here mid hls hm
    obtain ⟨hout, hdone⟩ := ih hmid
    refine ⟨hout, ?_⟩
    intro s hs
    rcases List.mem_append.mp hs with hs | hs
    · exact hhere s hs
    · exact hdone s hs

/-- Every statement that is listed was read from some words. -/
theorem Execution.exists_words {ls out : List (List String)} {done : List Listed}
    (h : Execution conv ls done out) : ∀ s ∈ done, ∃ words,
      resolve conv.table words = .ok s.resolution ∧ conv.entries s.resolution = .ok s.entries := by
  refine (h.preserves (P := fun _ => True) ?_ trivial).2
  intro ls here mid _ hm
  refine ⟨trivial, ?_⟩
  cases hm with
  | blank => simp
  | @statement words r es ls hne hr he => simpa using ⟨⟨words, hr⟩, he⟩

/-- The words that come out of a statement: those behind it, and those that a diagnostic shows. -/
structure Written (s : Listed) : Prop where
  rest : ∀ word ∈ s.resolution.rest, IsWord word.toList
  shown : ∀ d, s.resolution.diagnostic = some d → ∀ word ∈ d.words, IsWord word.toList

theorem isWord_expand (table : Table) {words : List String} (h : ∀ word ∈ words, IsWord word.toList) :
    ∀ word ∈ table.expand (dropShift words), IsWord word.toList := by
  have hdrop : ∀ word ∈ dropShift words, IsWord word.toList := by
    intro word hword
    cases words with
    | nil => simp [dropShift] at hword
    | cons first others =>
      rcases dropShift_cons first with hd | hd
      · rw [hd] at hword
        exact h word (by simp [hword])
      · rw [hd] at hword
        exact h word hword
  cases he : table.expand? (dropShift words) with
  | none => simpa [Table.expand, he] using hdrop
  | some expanded =>
    -- Words of the phrase are words, and those behind the shortcut were there before.
    obtain ⟨front, tail, spelling, phrase, hsplit, -, -, rfl, -⟩ := exists_shortcut he
    intro word hword
    simp only [Table.expand, he, Option.getD_some, List.mem_append] at hword
    rcases hword with hword | hword
    · exact isWord_of_mem_words hword
    · exact hdrop word (by simp [hsplit, hword])

theorem written_of_outcome {table : Table} {words rest : List String} {groups : List Group}
    {r : Resolution} (hw : Walk table table.root words groups rest)
    (ho : Outcome table words groups rest r) (h : ∀ word ∈ words, IsWord word.toList)
    (es : List Entry) : Written ⟨r, es⟩ := by
  obtain ⟨taken, ht, -⟩ := hw.exists_taken ho
  have hsplit := ht.split
  refine ⟨fun word hword => h word (by rw [hsplit]; simp [hword]), ?_⟩
  intro d hd word hword
  exact h word ((ht.echo d hd).1 ▸ hword)

theorem written_of_resolve {table : Table} {words : List String} {r : Resolution}
    (hr : resolve table words = .ok r) (h : ∀ word ∈ words, IsWord word.toList) (es : List Entry) :
    Written ⟨r, es⟩ := by
  rcases resolve_ok_cases hr with rfl | ⟨groups, rest, hw, ho⟩
  · exact ⟨by simp, by simp⟩
  · exact written_of_outcome hw ho (isWord_expand table h) es

theorem Execution.written {ls out : List (List String)} {done : List Listed}
    (h : Execution conv ls done out) (hls : ∀ l ∈ ls, ∀ word ∈ l, IsWord word.toList) :
    ∀ s ∈ done, Written s := by
  refine (h.preserves (P := fun ls => ∀ l ∈ ls, ∀ word ∈ l, IsWord word.toList) ?_ hls).2
  intro ls here mid hls hm
  cases hm with
  | blank => exact ⟨fun l hl => hls l (by simp [hl]), by simp⟩
  | @statement words r es ls hne hr he =>
    have hwords := hls words (by simp)
    have hw := written_of_resolve hr hwords es
    refine ⟨?_, by simpa using hw⟩
    intro l hl word hword
    rcases List.mem_cons.mp hl with rfl | hl
    · unfold Converter.next at hword
      split_ifs at hword
      · simp at hword
      · exact hwords word (List.mem_of_mem_tail hword)
      · exact hw.rest word hword
    · exact hls l (by simp [hl]) word hword

theorem isWord_wordLines (text : String) : ∀ l ∈ wordLines text, ∀ word ∈ l, IsWord word.toList := by
  intro l hl word hword
  obtain ⟨line, -, rfl⟩ := List.mem_map.mp hl
  exact isWord_of_mem_words hword

end Keystroke.Listing
