import Keystroke.Dump.Table
import Keystroke.Proofs.Lookup
import Keystroke.Proofs.Shortcuts
import Mathlib.Data.List.Induction

/-! A command set shows its spellings as a list and finds them by look-up, and the two views agree. Declarations are
entered one by one in both; one whose folded spelling is taken is passed over. So each spelling is shown once, in the
order of first declaration, with the token that is found for it, and a shortcut is written out exactly if it is
shown. -/
namespace Keystroke.Command

open Keystroke.Text
attribute [local irreducible] fold

/-- The folded spellings of declarations, as often as they are declared. -/
def Alias.spellings (declared : List Alias) : List String :=
  declared.map fun a => fold a.spelling

/-- The first declaration of a spelling stands for a token. -/
def FirstDeclared (declared : List Alias) (spelling token : String) : Prop :=
  ∃ before a after, declared = before ++ a :: after ∧ spelling ∉ Alias.spellings before ∧
    fold a.spelling = spelling ∧ a.token = token

/-- Two views of declarations: the list that is shown, and the look-up of a folded spelling. -/
structure Register where
  listed : List Alias
  token? : String → Option String

/-- The two views hold the same spellings, and they are those of the declarations. -/
structure Register.Records (declared : List Alias) (r : Register) : Prop where
  /-- What is found is what the first declaration stands for. -/
  found : ∀ spelling token, r.token? spelling = some token ↔ FirstDeclared declared spelling token
  /-- Nothing is found if there is no declaration. -/
  missing : ∀ spelling, r.token? spelling = none ↔ spelling ∉ Alias.spellings declared
  /-- Every declared spelling is shown, and no other. -/
  shown : ∀ spelling, spelling ∈ r.listed.map Alias.spelling ↔ spelling ∈ Alias.spellings declared
  /-- Spellings are shown in the order of their first declarations, so none is shown twice. -/
  ordered : (r.listed.map Alias.spelling).Pairwise fun x y =>
    (Alias.spellings declared).idxOf x < (Alias.spellings declared).idxOf y
  /-- A spelling is shown with the token that is found for it. -/
  agrees : ∀ a ∈ r.listed, r.token? a.spelling = some a.token

namespace Register

/-- Enters one more declaration in both views, unless its spelling is found already. -/
def enter (r : Register) (a : Alias) : Register :=
  if (r.token? (fold a.spelling)).isSome then r
  else ⟨r.listed ++ [a.folded], Function.update r.token? (fold a.spelling) (some a.token)⟩

/-- Declarations entered one by one. -/
def ofDeclared (declared : List Alias) : Register :=
  declared.foldl enter ⟨[], fun _ => none⟩

theorem ofDeclared_concat (declared : List Alias) (a : Alias) :
    ofDeclared (declared ++ [a]) = (ofDeclared declared).enter a := by
  rw [ofDeclared, List.foldl_append]
  rfl

end Register

theorem Alias.spellings_concat (declared : List Alias) (a : Alias) :
    spellings (declared ++ [a]) = spellings declared ++ [fold a.spelling] := by
  rw [spellings, List.map_append]
  rfl

/-- One more declaration is the first one of its spelling if that is new; the others stay what they are. -/
theorem firstDeclared_concat {declared : List Alias} {a : Alias} {spelling token : String} :
    FirstDeclared (declared ++ [a]) spelling token ↔ FirstDeclared declared spelling token ∨
      spelling ∉ Alias.spellings declared ∧ fold a.spelling = spelling ∧ a.token = token := by
  constructor
  · rintro ⟨before, b, after, hsplit, hbefore, hb⟩
    -- The declaration is the last one, or stands before it.
    rcases List.eq_nil_or_concat after with rfl | ⟨front, last, rfl⟩
    · obtain ⟨rfl, hlast⟩ := List.append_inj' hsplit rfl
      obtain rfl : a = b := by simpa using hlast
      exact .inr ⟨hbefore, hb⟩
    · have hfront : declared ++ [a] = (before ++ b :: front) ++ [last] := by simpa using hsplit
      exact .inl ⟨before, b, front, (List.append_inj' hfront rfl).1, hbefore, hb⟩
  · rintro (⟨before, b, after, rfl, hb⟩ | hnew)
    · exact ⟨before, b, after ++ [a], by simp, hb⟩
    · exact ⟨declared, a, [], rfl, hnew⟩

theorem FirstDeclared.mem_spellings {declared : List Alias} {spelling token : String}
    (h : FirstDeclared declared spelling token) : spelling ∈ Alias.spellings declared := by
  obtain ⟨before, a, after, rfl, -, rfl, -⟩ := h
  exact List.mem_map.mpr ⟨a, by simp, rfl⟩

namespace Register

variable {declared : List Alias} {r : Register}

theorem records_nil : Records [] ⟨[], fun _ => none⟩ where
  found spelling token := by simp [FirstDeclared]
  missing spelling := by simp [Alias.spellings]
  shown spelling := by simp [Alias.spellings]
  ordered := .nil
  agrees := by simp

/-- A declaration that is passed over leaves both views as they are. -/
theorem Records.enter_taken (h : Records declared r) {a : Alias}
    (ha : fold a.spelling ∈ Alias.spellings declared) : Records (declared ++ [a]) r where
  found spelling token := by
    rw [h.found, firstDeclared_concat, or_iff_left]
    rintro ⟨hnew, rfl, -⟩
    exact hnew ha
  missing spelling := by
    rw [h.missing, Alias.spellings_concat, List.mem_append, not_or, and_iff_left_of_imp]
    rintro hout hlast
    exact hout (List.mem_singleton.mp hlast ▸ ha)
  shown spelling := by
    rw [h.shown, Alias.spellings_concat, List.mem_append, or_iff_left_of_imp]
    intro hlast
    exact List.mem_singleton.mp hlast ▸ ha
  ordered := by
    rw [Alias.spellings_concat]
    exact pairwise_idxOf_concat (fun x hx => (h.shown x).mp hx) h.ordered _
  agrees := h.agrees

/-- A declaration with a new spelling comes last in the list and is found from now on. -/
theorem Records.enter_new (h : Records declared r) {a : Alias} (ha : fold a.spelling ∉ Alias.spellings declared) :
    Records (declared ++ [a])
      ⟨r.listed ++ [a.folded], Function.update r.token? (fold a.spelling) (some a.token)⟩ where
  found spelling token := by
    rw [firstDeclared_concat, ← h.found]
    by_cases hs : spelling = fold a.spelling
    · subst hs
      have hnone := (h.missing _).mpr ha
      simp [ha, hnone]
    · simp [Function.update_of_ne hs, Ne.symm hs]
  missing spelling := by
    rw [Alias.spellings_concat, List.mem_append, not_or, List.mem_singleton, ← h.missing]
    by_cases hs : spelling = fold a.spelling <;> simp [hs]
  shown spelling := by
    rw [List.map_append, Alias.spellings_concat, List.mem_append, List.mem_append, h.shown]
    rfl
  ordered := by
    rw [List.map_append, Alias.spellings_concat]
    exact pairwise_concat_idxOf_concat (fun x hx => (h.shown x).mp hx) h.ordered ha
  agrees := by
    intro b hb
    rcases List.mem_append.mp hb with hb | hb
    · have hold : b.spelling ≠ fold a.spelling := by
        intro he
        exact ha (he ▸ (h.shown _).mp (List.mem_map_of_mem hb))
      exact (Function.update_of_ne hold _ _).trans (h.agrees b hb)
    · rw [List.mem_singleton.mp hb]
      exact Function.update_self _ _ _

/-- One more declaration keeps the two views in agreement. -/
theorem Records.enter (h : Records declared r) (a : Alias) : Records (declared ++ [a]) (r.enter a) := by
  have htaken : (r.token? (fold a.spelling)).isSome ↔ fold a.spelling ∈ Alias.spellings declared := by
    rw [← not_iff_not, ← h.missing, Option.not_isSome_iff_eq_none]
  unfold Register.enter
  split_ifs with hs
  · exact h.enter_taken (htaken.mp hs)
  · exact h.enter_new (mt htaken.mpr hs)

theorem records_ofDeclared (declared : List Alias) : Records declared (ofDeclared declared) := by
  induction declared using List.reverseRecOn with
  | nil => exact records_nil
  | append_singleton declared a ih =>
    rw [ofDeclared_concat]
    exact ih.enter a

/-- An alias is shown exactly if its token is found under its spelling. -/
theorem Records.mem_listed_iff (h : Records declared r) (a : Alias) :
    a ∈ r.listed ↔ r.token? a.spelling = some a.token := by
  refine ⟨h.agrees a, ?_⟩
  intro hfound
  have hdeclared := ((h.found _ _).mp hfound).mem_spellings
  obtain ⟨b, hb, hspelling⟩ := List.mem_map.mp ((h.shown _).mpr hdeclared)
  have htoken : b.token = a.token := by
    have hsome := h.agrees b hb
    rw [hspelling, hfound] at hsome
    exact (Option.some.inj hsome).symm
  have hsame : b = a := by
    cases a
    cases b
    simp_all
  exact hsame ▸ hb

end Register

namespace Alias

theorem lookup_isSome_iff (aliases : List Alias) (spelling : String) :
    (lookup? aliases spelling).isSome ↔ spelling ∈ aliases.map Alias.spelling := by
  simp [lookup?]

variable {aliases : List Alias} {a : Alias}

theorem distinct_concat_new (h : a.spelling ∉ aliases.map Alias.spelling) :
    distinct (aliases ++ [a]) = distinct aliases ++ [a] := by
  induction aliases with
  | nil => rfl
  | cons b aliases ih =>
    rw [List.map_cons, List.mem_cons, not_or] at h
    rw [List.cons_append, distinct, distinct, ih h.2, List.filter_append, List.cons_append]
    simp [h.1]

theorem distinct_concat_taken (h : a.spelling ∈ aliases.map Alias.spelling) :
    distinct (aliases ++ [a]) = distinct aliases := by
  induction aliases with
  | nil => simp at h
  | cons b aliases ih =>
    rw [List.cons_append, distinct, distinct]
    by_cases hrest : a.spelling ∈ aliases.map Alias.spelling
    · rw [ih hrest]
    · -- Only `b` has the spelling, so the new alias goes with those that are dropped because of `b`.
      have hb : a.spelling = b.spelling := (List.mem_cons.mp h).resolve_right hrest
      rw [distinct_concat_new hrest, List.filter_append]
      simp [hb]

theorem lookup_concat (aliases : List Alias) (a : Alias) (spelling : String) : lookup? (aliases ++ [a]) spelling =
    (lookup? aliases spelling).or (if a.spelling = spelling then some a.token else none) := by
  rw [lookup?, lookup?, List.find?_append, Option.map_or, List.find?_singleton]
  by_cases ha : a.spelling = spelling <;> simp [ha]

theorem lookup_concat_new (h : a.spelling ∉ aliases.map Alias.spelling) :
    lookup? (aliases ++ [a]) = Function.update (lookup? aliases) a.spelling (some a.token) := by
  funext spelling
  rw [lookup_concat]
  by_cases hs : spelling = a.spelling
  · subst hs
    rw [← lookup_isSome_iff, Option.not_isSome_iff_eq_none] at h
    simp [h]
  · simp [Ne.symm hs, hs]

theorem lookup_concat_taken (h : a.spelling ∈ aliases.map Alias.spelling) :
    lookup? (aliases ++ [a]) = lookup? aliases := by
  funext spelling
  rw [lookup_concat]
  split_ifs with hs
  · obtain ⟨token, htoken⟩ := Option.isSome_iff_exists.mp ((lookup_isSome_iff _ _).mpr h)
    rw [← hs, htoken, Option.some_or]
  · rw [Option.or_none]

end Alias

namespace Register

/-- The two views of declarations in closed form. -/
theorem ofDeclared_eq (declared : List Alias) : ofDeclared declared =
    ⟨Alias.distinct (declared.map Alias.folded), Alias.lookup? (declared.map Alias.folded)⟩ := by
  induction declared using List.reverseRecOn with
  | nil => rfl
  | append_singleton declared a ih =>
    rw [ofDeclared_concat, ih, List.map_append, List.map_singleton, enter]
    split_ifs with hs
    · have htaken := (Alias.lookup_isSome_iff _ a.folded.spelling).mp hs
      rw [Alias.distinct_concat_taken htaken, Alias.lookup_concat_taken htaken]
    · have hnew := mt (Alias.lookup_isSome_iff _ a.folded.spelling).mpr hs
      rw [Alias.distinct_concat_new hnew, Alias.lookup_concat_new hnew]
      rfl

end Register

section Shortcuts

/-- Words with a listed shortcut in front, and the same words with the shortcut written out. The first word is the
shortcut if it is listed, or else the first two are. -/
inductive WritesOut (listed : List Alias) : List String → List String → Prop
  | one {first phrase : String} {others : List String} (h : ⟨fold first, phrase⟩ ∈ listed) :
    WritesOut listed (first :: others) (words phrase ++ others)
  | two {first second phrase : String} {others : List String} (hfirst : fold first ∉ listed.map Alias.spelling)
    (h : ⟨fold (first ++ " " ++ second), phrase⟩ ∈ listed) :
    WritesOut listed (first :: second :: others) (words phrase ++ others)

variable {table : Table} {declared : List Alias} (h : Register.Records declared ⟨table.shortcuts, table.shortcut?⟩)
include h

theorem shortcut_eq_none_iff (spelling : String) :
    table.shortcut? spelling = none ↔ spelling ∉ table.shortcuts.map Alias.spelling := by
  rw [h.shown]
  exact h.missing spelling

/-- A shortcut is written out as it is listed. -/
theorem expand_eq_some_iff (statement out : List String) :
    table.expand? statement = some out ↔ WritesOut table.shortcuts statement out := by
  have hlisted (spelling phrase : String) :
      ⟨spelling, phrase⟩ ∈ table.shortcuts ↔ table.shortcut? spelling = some phrase := h.mem_listed_iff ⟨spelling, phrase⟩
  constructor
  · intro hout
    cases statement with
    | nil => simp [Table.expand?] at hout
    | cons first others =>
      cases hone : table.shortcut? (fold first) with
      | some phrase =>
        simp only [Table.expand?, hone, Option.some.injEq] at hout
        subst hout
        exact .one ((hlisted _ _).mpr hone)
      | none =>
        cases others with
        | nil => simp [Table.expand?, hone] at hout
        | cons second others =>
          simp only [Table.expand?, hone, Option.map_eq_some_iff] at hout
          obtain ⟨phrase, htwo, rfl⟩ := hout
          exact .two ((shortcut_eq_none_iff h _).mp hone) ((hlisted _ _).mpr htwo)
  · rintro (⟨hone⟩ | ⟨hfirst, htwo⟩)
    · rw [hlisted] at hone
      simp [Table.expand?, hone]
    · rw [hlisted] at htwo
      rw [← shortcut_eq_none_iff h] at hfirst
      simp [Table.expand?, hfirst, htwo]

/-- A statement begins with a shortcut if its first word is listed, or else its first two words. -/
theorem expand_isSome_iff (statement : List String) : (table.expand? statement).isSome ↔
    ∃ first others, statement = first :: others ∧ (fold first ∈ table.shortcuts.map Alias.spelling ∨
      ∃ second rest, others = second :: rest ∧
        fold (first ++ " " ++ second) ∈ table.shortcuts.map Alias.spelling) := by
  cases statement with
  | nil => simp [Table.expand?]
  | cons first others =>
    rw [← not_iff_not, Option.not_isSome_iff_eq_none, expand_eq_none_iff]
    simp only [shortcut_eq_none_iff h]
    cases others <;> simp

end Shortcuts

section Views

variable (root : Node) (aliases shortcuts : List Alias) (shifts : List (String × Shift))

theorem build_aliases_view : Register.ofDeclared aliases =
    ⟨(Table.build root aliases shortcuts shifts).aliases, (Table.build root aliases shortcuts shifts).canonical?⟩ := by
  have hfound := funext (Table.build_canonical root aliases shortcuts shifts)
  rw [Register.ofDeclared_eq, hfound]
  rfl

theorem build_shortcuts_view : Register.ofDeclared shortcuts =
    ⟨(Table.build root aliases shortcuts shifts).shortcuts, (Table.build root aliases shortcuts shifts).shortcut?⟩ := by
  have hfound := funext (Table.build_shortcut root aliases shortcuts shifts)
  rw [Register.ofDeclared_eq, hfound]
  rfl

theorem build_records_aliases : Register.Records aliases
    ⟨(Table.build root aliases shortcuts shifts).aliases, (Table.build root aliases shortcuts shifts).canonical?⟩ := by
  rw [← build_aliases_view]
  exact Register.records_ofDeclared aliases

theorem build_records_shortcuts : Register.Records shortcuts
    ⟨(Table.build root aliases shortcuts shifts).shortcuts, (Table.build root aliases shortcuts shifts).shortcut?⟩ := by
  rw [← build_shortcuts_view]
  exact Register.records_ofDeclared shortcuts

end Views

/-- A command set keeps what it shows and what it finds in agreement. Both views are those of the declarations entered
one by one: what is found is what the first declaration of a spelling stands for, and each spelling is shown once, in the
order of first declaration, with what is found for it. A statement begins with a shortcut exactly if its first word is
shown, or else its first two words; these are replaced by the words of the phrase that is shown, and no other word
is. -/
theorem build_views_agree (root : Node) (aliases shortcuts : List Alias) (shifts : List (String × Shift)) :
    let table := Table.build root aliases shortcuts shifts
    let snapshot := Dump.ofTable table
    (Register.ofDeclared aliases = ⟨table.aliases, table.canonical?⟩ ∧
      Register.Records aliases ⟨table.aliases, table.canonical?⟩ ∧ snapshot.aliases = table.aliases) ∧
    (Register.ofDeclared shortcuts = ⟨snapshot.shortcuts, table.shortcut?⟩ ∧
      Register.Records shortcuts ⟨snapshot.shortcuts, table.shortcut?⟩) ∧
    ∀ statement,
      (∀ out, table.expand? statement = some out ↔ WritesOut snapshot.shortcuts statement out) ∧
      ((table.expand? statement).isSome ↔
        ∃ first others, statement = first :: others ∧ (fold first ∈ snapshot.shortcuts.map Alias.spelling ∨
          ∃ second rest, others = second :: rest ∧
            fold (first ++ " " ++ second) ∈ snapshot.shortcuts.map Alias.spelling)) := by
  intro table snapshot
  have halias := build_records_aliases root aliases shortcuts shifts
  have hshortcut := build_records_shortcuts root aliases shortcuts shifts
  refine ⟨⟨build_aliases_view root aliases shortcuts shifts, halias, rfl⟩,
    ⟨build_shortcuts_view root aliases shortcuts shifts, hshortcut⟩, ?_⟩
  intro statement
  exact ⟨expand_eq_some_iff hshortcut statement, expand_isSome_iff hshortcut statement⟩

end Keystroke.Command
