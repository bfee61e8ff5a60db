import Keystroke.Command.Table
import Keystroke.Proofs.Folding
import Mathlib.Data.List.Find

/-! Look-ups in a command set as it was declared: the first alias of a spelling counts, and the last node
given for a token. -/
namespace Keystroke.Command

open Keystroke.Text

theorem find_of_unique {α : Type} {p : α → Bool} {l : List α} {a : α} (ha : a ∈ l) (hp : p a)
    (hunique : ∀ b, p b → b = a) : l.find? p = some a := by
  cases hfind : l.find? p with
  | none => exact absurd hp (List.find?_eq_none.mp hfind a ha)
  | some b => rw [hunique b (List.find?_some hfind)]

/-- One more item leaves the places of the items before it. -/
theorem pairwise_idxOf_concat {given kept : List String} (hkept : ∀ x ∈ kept, x ∈ given)
    (h : kept.Pairwise fun x y => given.idxOf x < given.idxOf y) (item : String) :
    kept.Pairwise fun x y => (given ++ [item]).idxOf x < (given ++ [item]).idxOf y := by
  refine h.imp_of_mem ?_
  intro x y hx hy hlt
  rwa [List.idxOf_append_of_mem (hkept x hx), List.idxOf_append_of_mem (hkept y hy)]

/-- A new item has its place behind all others. -/
theorem pairwise_concat_idxOf_concat {given kept : List String} (hkept : ∀ x ∈ kept, x ∈ given)
    (h : kept.Pairwise fun x y => given.idxOf x < given.idxOf y) {item : String} (hnew : item ∉ given) :
    (kept ++ [item]).Pairwise fun x y => (given ++ [item]).idxOf x < (given ++ [item]).idxOf y := by
  rw [List.pairwise_append]
  refine ⟨pairwise_idxOf_concat hkept h item, List.pairwise_singleton _ _, ?_⟩
  intro x hx y hy
  rw [List.mem_singleton.mp hy, List.idxOf_append_of_mem (hkept x hx), List.idxOf_append_of_notMem hnew]
  exact Nat.lt_add_right _ (List.idxOf_lt_length_of_mem (hkept x hx))

theorem Alias.lookup_distinct (aliases : List Alias) (spelling : String) :
    Alias.lookup? (Alias.distinct aliases) spelling = Alias.lookup? aliases spelling := by
  have hfind : (Alias.distinct aliases).find? (·.spelling == spelling) =
      aliases.find? (·.spelling == spelling) := by
    induction aliases with
    | nil => rfl
    | cons a aliases ih =>
      rw [Alias.distinct, List.find?_cons, List.find?_cons]
      by_cases ha : a.spelling = spelling
      · simp [ha]
      · -- The aliases that were dropped have the spelling of `a`, which is not the one looked for.
        rw [beq_false_of_ne ha, ← ih, List.find?_filter]
        apply List.find?_congr
        intro b _
        rw [Bool.eq_iff_iff]
        simp only [decide_eq_true_eq, bne_iff_ne, beq_iff_eq, and_iff_right_iff_imp]
        rintro rfl
        exact Ne.symm ha
  rw [Alias.lookup?, hfind, Alias.lookup?]

theorem Alias.mem_of_lookup {aliases : List Alias} {spelling token : String}
    (h : Alias.lookup? aliases spelling = some token) : ⟨spelling, token⟩ ∈ aliases := by
  obtain ⟨a, ha, rfl⟩ := Option.map_eq_some_iff.mp h
  have hs := List.find?_some ha
  rw [beq_iff_eq] at hs
  rw [← hs]
  exact List.mem_of_find?_eq_some ha

theorem Alias.lookup_folded {aliases : List Alias} {spelling : String}
    (h : ∀ a ∈ aliases, fold a.spelling = spelling ↔ a.spelling = spelling) :
    Alias.lookup? (aliases.map Alias.folded) spelling = Alias.lookup? aliases spelling := by
  have hfind : aliases.find? ((·.spelling == spelling) ∘ Alias.folded) =
      aliases.find? (·.spelling == spelling) := by
    apply List.find?_congr
    intro a ha
    rw [Bool.eq_iff_iff]
    simpa [Alias.folded] using h a ha
  have htoken : (·.token) ∘ Alias.folded = (·.token) := rfl
  rw [Alias.lookup?, Alias.lookup?, List.find?_map, Option.map_map, hfind, htoken]

theorem Table.build_canonical (root : Node) (aliases shortcuts : List Alias)
    (shifts : List (String × Shift)) (spelling : String) :
    (Table.build root aliases shortcuts shifts).canonical? spelling =
      Alias.lookup? (aliases.map Alias.folded) spelling :=
  Alias.lookup_distinct _ _

theorem Table.build_shortcut (root : Node) (aliases shortcuts : List Alias)
    (shifts : List (String × Shift)) (spelling : String) :
    (Table.build root aliases shortcuts shifts).shortcut? spelling =
      Alias.lookup? (shortcuts.map Alias.folded) spelling :=
  Alias.lookup_distinct _ _

namespace Node

theorem lookup_cons_if (token other : String) (node : Node) (args : List (String × Node)) :
    ((token, node) :: args).lookup other =
      if other = token then some node else args.lookup other := by
  by_cases h : other = token
  · simp [h]
  · rw [List.lookup_cons, beq_false_of_ne h, if_neg h]

theorem lookup_putArg (token other : String) (node : Node) (args : List (String × Node)) :
    (putArg token node args).lookup other =
      if other = token then some node else args.lookup other := by
  induction args with
  | nil => exact lookup_cons_if token other node []
  | cons arg args ih =>
    obtain ⟨first, n⟩ := arg
    by_cases hf : first = token
    · by_cases ho : other = token <;> simp [putArg, hf, ho, lookup_cons_if]
    · by_cases ho : other = first
      · simp [putArg, hf, ho]
      · simp [putArg, hf, ho, lookup_cons_if, ih]

theorem lookup_foldl_putArg (token : String) (args kept : List (String × Node)) :
    (args.foldl (fun kept arg => putArg arg.1 arg.2 kept) kept).lookup token =
      (args.reverse.lookup token).or (kept.lookup token) := by
  induction args generalizing kept with
  | nil => simp
  | cons arg args ih =>
    obtain ⟨first, n⟩ := arg
    rw [List.foldl_cons, ih, lookup_putArg, List.reverse_cons, List.lookup_append, Option.or_assoc,
      lookup_cons_if]
    by_cases h : token = first <;> simp [h]

/-- The last node given for a token counts. -/
theorem child_branch (keycode comment token : String) (args : List (String × Node)) :
    (branch keycode comment args).child? token = args.reverse.lookup token := by
  simp [branch, child?, Node.args, lookup_foldl_putArg]

theorem mem_of_child_branch {keycode comment token : String} {args : List (String × Node)} {node : Node}
    (h : (branch keycode comment args).child? token = some node) : (token, node) ∈ args := by
  rw [child_branch] at h
  exact List.mem_reverse.mp (mem_of_lookup h)

theorem child_leaf (keycode token : String) : (leaf keycode).child? token = none := rfl

/-- Nodes below which only tokens with a given property occur. -/
inductive Below (P : String → Prop) : Node → Prop
  | intro {node : Node} : (∀ token child, node.child? token = some child → P token) →
    (∀ token child, node.child? token = some child → Below P child) → Below P node

theorem Below.leaf (P : String → Prop) (keycode : String) : Below P (Node.leaf keycode) := by
  refine .intro ?_ ?_ <;>
  · intro token child h
    rw [child_leaf] at h
    simp at h

theorem Below.branch {P : String → Prop} {args : List (String × Node)} (keycode comment : String)
    (h : ∀ arg ∈ args, P arg.1 ∧ Below P arg.2) : Below P (Node.branch keycode comment args) :=
  .intro (fun token child hc => (h (token, child) (mem_of_child_branch hc)).1)
    (fun token child hc => (h (token, child) (mem_of_child_branch hc)).2)

theorem Below.child {P : String → Prop} {node child : Node} {token : String} (h : Below P node)
    (hc : node.child? token = some child) : P token ∧ Below P child := by
  cases h with
  | intro htoken hbelow => exact ⟨htoken token child hc, hbelow token child hc⟩

end Node

end Keystroke.Command
