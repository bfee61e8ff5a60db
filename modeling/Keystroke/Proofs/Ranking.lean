import Keystroke.Statement.Suggestion
import Mathlib.Data.List.Induction
import Mathlib.Data.List.Nodup
import Mathlib.Data.Prod.Lex
import Mathlib.Order.Bounds.Basic

/-! The suggestions for a word are the best commands. A command is placed by the least distance of its spellings, and
among commands with one distance by the position at which the first such spelling is declared. Spellings are ranked
and commands are suggested, so a command counts where it comes first. -/
namespace Keystroke.Statement

open Keystroke.Command

/-- A spelling of a command that qualifies. -/
structure Candidate where
  distance : Nat
  position : Nat
  token : String

namespace Candidate

/-- By distance, then by declaration. -/
def place (c : Candidate) : ℕ ×ₗ ℕ :=
  toLex (c.distance, c.position)

def ranked (c : Candidate) : Nat × String :=
  (c.distance, c.token)

theorem place_lt_iff {c e : Candidate} :
    c.place < e.place ↔ c.distance < e.distance ∨ c.distance = e.distance ∧ c.position < e.position :=
  Prod.Lex.toLex_lt_toLex

/-- The least place of the candidates with a token. -/
def Leads (cs : List Candidate) (token : String) (place : ℕ ×ₗ ℕ) : Prop :=
  IsLeast {p | ∃ c ∈ cs, c.token = token ∧ c.place = p} place

end Candidate

section Sorting

open Candidate

variable {cs sorted : List Candidate} {c : Candidate}

/-- A candidate that is declared after all others is put in its place. -/
theorem exists_insertRanked (hsorted : sorted.Pairwise (·.place < ·.place))
    (hlater : ∀ e ∈ sorted, e.position < c.position) : ∃ inserted : List Candidate,
    inserted.Perm (c :: sorted) ∧ inserted.Pairwise (·.place < ·.place) ∧
      inserted.map Candidate.ranked = insertRanked c.ranked (sorted.map Candidate.ranked) := by
  induction sorted with
  | nil => exact ⟨[c], .refl _, List.pairwise_singleton _ _, rfl⟩
  | cons e sorted ih =>
    obtain ⟨hfirst, hrest⟩ := List.pairwise_cons.mp hsorted
    obtain ⟨he, hlater⟩ := List.forall_mem_cons.mp hlater
    rw [List.map_cons, insertRanked]
    by_cases hd : c.distance < e.distance
    · refine ⟨c :: e :: sorted, .refl _, ?_, (if_pos hd).symm⟩
      have hce : c.place < e.place := place_lt_iff.mpr (.inl hd)
      refine List.pairwise_cons.mpr ⟨?_, hsorted⟩
      intro x hx
      rcases List.mem_cons.mp hx with rfl | hx
      · exact hce
      · exact hce.trans (hfirst x hx)
    · -- Among equal distances the new candidate is the last, for its position is the greatest.
      have hec : e.place < c.place := place_lt_iff.mpr (by omega)
      obtain ⟨inserted, hperm, hpairwise, hmap⟩ := ih hrest hlater
      refine ⟨e :: inserted, (hperm.cons e).trans (.swap c e sorted), ?_, ?_⟩
      · refine List.pairwise_cons.mpr ⟨?_, hpairwise⟩
        intro x hx
        rcases List.mem_cons.mp (hperm.mem_iff.mp hx) with rfl | hx
        · exact hec
        · exact hfirst x hx
      · rw [List.map_cons, hmap]
        exact (if_neg hd).symm

theorem sortRanked_concat (items : List (Nat × String)) (item : Nat × String) :
    sortRanked (items ++ [item]) = insertRanked item (sortRanked items) := by
  rw [sortRanked, List.foldl_append]
  rfl

/-- Candidates in order of declaration are sorted by their places. -/
theorem exists_sortRanked (hdeclared : cs.Pairwise (·.position < ·.position)) : ∃ sorted : List Candidate,
    sorted.Perm cs ∧ sorted.Pairwise (·.place < ·.place) ∧
      sorted.map Candidate.ranked = sortRanked (cs.map Candidate.ranked) := by
  induction cs using List.reverseRecOn with
  | nil => exact ⟨[], .refl _, .nil, rfl⟩
  | append_singleton cs c ih =>
    obtain ⟨hcs, -, hlast⟩ := List.pairwise_append.mp hdeclared
    obtain ⟨sorted, hperm, hpairwise, hmap⟩ := ih hcs
    have hlater : ∀ e ∈ sorted, e.position < c.position := fun e he =>
      hlast e (hperm.mem_iff.mp he) c (List.mem_singleton_self c)
    obtain ⟨inserted, hinserted, hsorted, hranked⟩ := exists_insertRanked hpairwise hlater
    refine ⟨inserted, ?_, hsorted, ?_⟩
    · exact hinserted.trans ((hperm.cons c).trans (List.perm_append_singleton c cs).symm)
    · rw [hranked, hmap, List.map_append, List.map_singleton, sortRanked_concat]

end Sorting

section Tokens

open Candidate

variable {cs : List Candidate}

theorem mem_distinctTokens {tokens : List String} {token : String} :
    token ∈ distinctTokens tokens ↔ token ∈ tokens := by
  induction tokens with
  | nil => rfl
  | cons first rest ih =>
    by_cases h : token = first <;> simp [distinctTokens, ih, h]

theorem nodup_distinctTokens (tokens : List String) : (distinctTokens tokens).Nodup := by
  induction tokens with
  | nil => exact .nil
  | cons first rest ih =>
    refine List.nodup_cons.mpr ⟨?_, ih.filter _⟩
    simp

theorem leads_head {c : Candidate} (hfirst : ∀ e ∈ cs, c.place < e.place) : Leads (c :: cs) c.token c.place := by
  constructor
  · exact ⟨c, List.mem_cons_self, rfl, rfl⟩
  · rintro _ ⟨e, he, -, rfl⟩
    rcases List.mem_cons.mp he with rfl | he
    · exact le_refl _
    · exact (hfirst e he).le

theorem Candidate.Leads.cons {c : Candidate} {token : String} {place : ℕ ×ₗ ℕ} (h : Leads cs token place)
    (hne : token ≠ c.token) : Leads (c :: cs) token place := by
  obtain ⟨⟨e, he, htoken, hplace⟩, hleast⟩ := h
  refine ⟨⟨e, List.mem_cons_of_mem c he, htoken, hplace⟩, ?_⟩
  rintro p ⟨x, hx, hxtoken, hp⟩
  rcases List.mem_cons.mp hx with rfl | hx
  · exact absurd hxtoken.symm hne
  · exact hleast ⟨x, hx, hxtoken, hp⟩

theorem exists_leads (hsorted : cs.Pairwise (·.place < ·.place)) {token : String}
    (h : token ∈ cs.map Candidate.token) : ∃ place, Leads cs token place := by
  induction cs with
  | nil => simp at h
  | cons c cs ih =>
    obtain ⟨hfirst, hrest⟩ := List.pairwise_cons.mp hsorted
    by_cases hc : token = c.token
    · exact ⟨c.place, hc ▸ leads_head hfirst⟩
    · obtain ⟨place, hplace⟩ := ih hrest (List.mem_of_ne_of_mem hc h)
      exact ⟨place, hplace.cons hc⟩

/-- The tokens of sorted candidates are in the order of their places. -/
theorem distinctTokens_ordered (hsorted : cs.Pairwise (·.place < ·.place)) :
    (distinctTokens (cs.map Candidate.token)).Pairwise fun t u =>
      ∃ p q, Leads cs t p ∧ Leads cs u q ∧ p < q := by
  induction cs with
  | nil => exact .nil
  | cons c cs ih =>
    obtain ⟨hfirst, hrest⟩ := List.pairwise_cons.mp hsorted
    rw [List.map_cons, distinctTokens]
    refine List.pairwise_cons.mpr ⟨?_, ?_⟩
    · intro u hu
      rw [List.mem_filter, mem_distinctTokens, decide_eq_true_eq] at hu
      obtain ⟨q, hq⟩ := exists_leads hrest hu.1
      refine ⟨c.place, q, leads_head hfirst, hq.cons hu.2, ?_⟩
      obtain ⟨e, he, -, rfl⟩ := hq.1
      exact hfirst e he
    · -- No other token is that of `c`, so what leads without `c` still leads with it.
      refine ((ih hrest).filter _).imp_of_mem ?_
      intro t u ht hu
      rw [List.mem_filter, decide_eq_true_eq] at ht hu
      rintro ⟨p, q, hp, hq, hlt⟩
      exact ⟨p, q, hp.cons ht.2, hq.cons hu.2, hlt⟩

end Tokens

section Suggestions

open Candidate

variable (distance : String → Option Nat) (table : Table)

/-- The places of the spellings of a command: their distances, and where they stand among all spellings. -/
def places (token : String) : Set (ℕ ×ₗ ℕ) :=
  {p | ∃ a, table.aliases[(ofLex p).2]? = some a ∧ a.token = token ∧ distance a.spelling = some (ofLex p).1}

/-- A command of the keypad with a spelling that qualifies. -/
def Matches (token : String) : Prop :=
  (table.root.child? token).isSome ∧ (places distance table token).Nonempty

/-- One command comes before another. -/
def Before (t u : String) : Prop :=
  ∃ p q, IsLeast (places distance table t) p ∧ IsLeast (places distance table u) q ∧ p < q

/-- Different commands that match, in order and at most three. Any other command that matches comes after three of
them. -/
structure AreBest (tokens : List String) : Prop where
  few : tokens.length ≤ 3
  nodup : tokens.Nodup
  matching : ∀ t ∈ tokens, Matches distance table t
  ordered : tokens.Pairwise (Before distance table)
  others : ∀ u, Matches distance table u → u ∉ tokens →
    tokens.length = 3 ∧ ∀ t ∈ tokens, Before distance table t u

/-- The closest commands for any measure of distance. -/
def closest : List String :=
  let ranked := (table.aliases.filter fun a => (table.root.child? a.token).isSome).filterMap fun a =>
    (distance a.spelling).map (·, a.token)
  (distinctTokens ((sortRanked ranked).map (·.2))).take suggestionLimit

/-- The spelling at a position, if it qualifies. -/
def candidateAt (entry : Alias × Nat) : Option Candidate :=
  if (table.root.child? entry.1.token).isSome then
    (distance entry.1.spelling).map (⟨·, entry.2, entry.1.token⟩)
  else none

/-- The spellings that qualify, in order of declaration. -/
def candidates : List Candidate :=
  table.aliases.zipIdx.filterMap (candidateAt distance table)

variable {distance table}

theorem candidateAt_eq_some_iff {entry : Alias × Nat} {c : Candidate} :
    candidateAt distance table entry = some c ↔ entry.2 = c.position ∧ entry.1.token = c.token ∧
      (table.root.child? c.token).isSome ∧ distance entry.1.spelling = some c.distance := by
  obtain ⟨d, i, token⟩ := c
  rw [candidateAt, Option.ite_none_right_eq_some, Option.map_eq_some_iff]
  constructor
  · rintro ⟨hchild, e, he, hc⟩
    obtain ⟨rfl, rfl, rfl⟩ := Candidate.mk.inj hc
    exact ⟨rfl, rfl, hchild, he⟩
  · rintro ⟨rfl, rfl, hchild, he⟩
    exact ⟨hchild, d, he, rfl⟩

theorem mem_candidates {c : Candidate} : c ∈ candidates distance table ↔
    (table.root.child? c.token).isSome ∧ c.place ∈ places distance table c.token := by
  rw [candidates, List.mem_filterMap]
  constructor
  · rintro ⟨entry, hentry, hc⟩
    obtain ⟨hposition, htoken, hchild, hdistance⟩ := candidateAt_eq_some_iff.mp hc
    rw [List.mem_zipIdx_iff_getElem?, hposition] at hentry
    exact ⟨hchild, entry.1, hentry, htoken, hdistance⟩
  · rintro ⟨hchild, a, ha, htoken, hdistance⟩
    refine ⟨(a, c.position), List.mem_zipIdx_iff_getElem?.mpr ha, ?_⟩
    exact candidateAt_eq_some_iff.mpr ⟨rfl, htoken, hchild, hdistance⟩

theorem candidates_declared : (candidates distance table).Pairwise (·.position < ·.position) := by
  have hindex : table.aliases.zipIdx.Pairwise (·.2 < ·.2) := by
    rw [← List.pairwise_map (f := Prod.snd) (R := (· < ·)), List.zipIdx_map_snd]
    exact List.pairwise_lt_range'
  refine hindex.filterMap _ ?_
  intro x y hlt c hc e he
  rw [← (candidateAt_eq_some_iff.mp hc).1, ← (candidateAt_eq_some_iff.mp he).1]
  exact hlt

/-- Without their positions, candidates are what is ranked. -/
theorem map_ranked_candidates : (candidates distance table).map Candidate.ranked =
    (table.aliases.filter fun a => (table.root.child? a.token).isSome).filterMap fun a =>
      (distance a.spelling).map (·, a.token) := by
  have hentry (entry : Alias × Nat) : (candidateAt distance table entry).map Candidate.ranked =
      if (table.root.child? entry.1.token).isSome then (distance entry.1.spelling).map (·, entry.1.token)
      else none := by
    rw [candidateAt, apply_ite (Option.map Candidate.ranked), Option.map_map]
    rfl
  rw [candidates, List.map_filterMap, List.filterMap_filter, funext hentry]
  nth_rewrite 2 [← List.zipIdx_map_fst 0 table.aliases]
  rw [List.filterMap_map]
  rfl

/-- Where a command leads the candidates is its place. -/
theorem leads_iff {sorted : List Candidate} (hperm : sorted.Perm (candidates distance table)) {token : String}
    (hchild : (table.root.child? token).isSome) {p : ℕ ×ₗ ℕ} :
    Leads sorted token p ↔ IsLeast (places distance table token) p := by
  have hplaces : {p | ∃ c ∈ sorted, c.token = token ∧ c.place = p} = places distance table token := by
    ext p
    constructor
    · rintro ⟨c, hc, rfl, rfl⟩
      exact (mem_candidates.mp (hperm.mem_iff.mp hc)).2
    · intro hp
      let c : Candidate := ⟨(ofLex p).1, (ofLex p).2, token⟩
      have hc : c ∈ candidates distance table := mem_candidates.mpr ⟨hchild, hp⟩
      exact ⟨c, hperm.mem_iff.mpr hc, rfl, rfl⟩
  rw [Leads, hplaces]

/-- All commands that match, in order, and the closest are the first of them. -/
theorem exists_closest : ∃ tokens : List String, closest distance table = tokens.take suggestionLimit ∧ tokens.Nodup ∧
    (∀ t, t ∈ tokens ↔ Matches distance table t) ∧ tokens.Pairwise (Before distance table) := by
  have hdeclared : (candidates distance table).Pairwise _ := candidates_declared
  obtain ⟨sorted, hperm, hsorted, hmap⟩ := exists_sortRanked hdeclared
  have hmem (c : Candidate) :
      c ∈ sorted ↔ (table.root.child? c.token).isSome ∧ c.place ∈ places distance table c.token :=
    hperm.mem_iff.trans mem_candidates
  refine ⟨distinctTokens (sorted.map Candidate.token), ?_, nodup_distinctTokens _, ?_, ?_⟩
  · rw [closest, ← map_ranked_candidates, ← hmap, List.map_map]
    rfl
  · intro t
    rw [mem_distinctTokens, List.mem_map]
    constructor
    · rintro ⟨c, hc, rfl⟩
      exact ⟨((hmem c).mp hc).1, c.place, ((hmem c).mp hc).2⟩
    · rintro ⟨hchild, p, hp⟩
      exact ⟨⟨(ofLex p).1, (ofLex p).2, t⟩, (hmem _).mpr ⟨hchild, hp⟩, rfl⟩
  · refine (distinctTokens_ordered hsorted).imp_of_mem ?_
    intro t u ht hu
    rw [mem_distinctTokens, List.mem_map] at ht hu
    obtain ⟨⟨c, hc, rfl⟩, e, he, rfl⟩ := And.intro ht hu
    rintro ⟨p, q, hp, hq, hlt⟩
    exact ⟨p, q, (leads_iff hperm ((hmem c).mp hc).1).mp hp, (leads_iff hperm ((hmem e).mp he).1).mp hq, hlt⟩

theorem areBest_closest : AreBest distance table (closest distance table) := by
  obtain ⟨tokens, hclosest, hnodup, hmatches, hordered⟩ : ∃ tokens, closest distance table = _ ∧ _ := exists_closest
  have hsplit : closest distance table ++ tokens.drop suggestionLimit = tokens := by
    rw [hclosest, List.take_append_drop]
  have hlength : (closest distance table).length = min suggestionLimit tokens.length := by
    rw [hclosest, List.length_take]
  have hlimit : suggestionLimit = 3 := rfl
  rw [← hsplit] at hnodup hordered
  obtain ⟨hfront, -, hbefore⟩ := List.pairwise_append.mp hordered
  refine ⟨by omega, (List.nodup_append.mp hnodup).1, ?_, hfront, ?_⟩
  · intro t ht
    exact (hmatches t).mp (hsplit ▸ List.mem_append_left _ ht)
  · intro u hu hout
    have hlate : u ∈ tokens.drop suggestionLimit := by
      have hin := (hmatches u).mpr hu
      rw [← hsplit, List.mem_append] at hin
      exact hin.resolve_left hout
    refine ⟨?_, fun t ht => hbefore t ht u hlate⟩
    have hlong := List.length_pos_of_mem hlate
    rw [List.length_drop] at hlong
    omega

end Suggestions

/-- The suggestions with another measure of distance. -/
def suggestionsBy (distance : String → String → Option Nat) (table : Table) (word : String) : List String :=
  if word.length < 2 then [] else closest (distance word) table

/-- For a word of two or more characters the best commands are suggested, whatever the measure of distance. -/
theorem suggestions_are_best (table : Table) (word : String) (h : 2 ≤ word.length) :
    suggestions table word = suggestionsBy distance? table word ∧
    ∀ distance : String → String → Option Nat, AreBest (distance word) table (suggestionsBy distance table word) := by
  refine ⟨rfl, ?_⟩
  intro distance
  rw [suggestionsBy, if_neg (Nat.not_lt.mpr h)]
  exact areBest_closest

/-- Spellings of several commands in turn; `X` is not on the keypad. -/
def mingledTable : Table where
  root := .mk "" "" [("A", .leaf "11"), ("B", .leaf "12"), ("C", .leaf "13"), ("D", .leaf "14"), ("E", .leaf "15")]
  aliases :=
    [⟨"abx", "X"⟩, ⟨"a-b-c", "C"⟩, ⟨"aab", "B"⟩, ⟨"abcd", "A"⟩, ⟨"ab1", "A"⟩, ⟨"acb", "D"⟩, ⟨"a12b", "E"⟩, ⟨"b", "E"⟩]
  shortcuts := []
  shifts := []

theorem suggestions_are_best_mingled : 2 ≤ "ab".length ∧ suggestions mingledTable "ab" = ["B", "A", "D"] ∧
    AreBest (distance? "ab") mingledTable ["B", "A", "D"] := by
  have hlength : 2 ≤ "ab".length := by decide
  have hsuggestions : suggestions mingledTable "ab" = ["B", "A", "D"] := by decide
  obtain ⟨hsame, hbest⟩ := suggestions_are_best mingledTable "ab" hlength
  refine ⟨hlength, hsuggestions, ?_⟩
  rw [← hsuggestions, hsame]
  exact hbest distance?

end Keystroke.Statement
