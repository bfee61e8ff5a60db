import Keystroke.Proofs.Lookup
import Mathlib.Data.List.Induction

/-! A walk of the command tree. It visits each node below the start once, with the tokens that lead to it: a node before
those below it, and the arguments of a node in the order in which they were first declared. A visit that does not go on
ends the walk at all levels. -/
namespace Keystroke.Command.Node

/-- A node reached by a walk, with the tokens that lead to it. -/
abbrev Visit := List String × Node

/-- Nodes made from nested arguments, in which tokens may be repeated. -/
inductive Built : Node → Prop
  | leaf (keycode : String) : Built (Node.leaf keycode)
  | branch (keycode comment : String) {args : List (String × Node)} (h : ∀ arg ∈ args, Built arg.2) :
    Built (Node.branch keycode comment args)

/-- The order of two paths below a node: a path comes before its extensions, and where two paths part, the token that
was declared first decides. -/
inductive Precedes (node : Node) : List String → List String → Prop
  | extension (path : List String) (token : String) (more : List String) :
    Precedes node path (path ++ token :: more)
  | sibling {common : List String} {keycode comment : String} {args : List (String × Node)} {first second : String}
    (hnode : node.descend? common = some (Node.branch keycode comment args))
    (hdeclared : (args.map Prod.fst).idxOf first < (args.map Prod.fst).idxOf second) (path other : List String) :
    Precedes node (common ++ first :: path) (common ++ second :: other)

/-- Visits one after the other, up to the first that does not go on. -/
def visitAll {σ : Type} (visit : σ → List String → Node → σ × Bool) (state : σ) : List Visit → σ × Bool
  | [] => (state, true)
  | (path, node) :: rest =>
    match visit state path node with
    | (state, false) => (state, false)
    | (state, true) => visitAll visit state rest

/-- A visit from further up. -/
def Visit.under (path : List String) (v : Visit) : Visit :=
  (path ++ v.1, v.2)

mutual

/-- The nodes below a node, in order. -/
def descendants : Node → List Visit
  | mk _ _ args => argDescendants args

/-- The nodes that arguments lead to, and those below them. -/
def argDescendants : List (String × Node) → List Visit
  | [] => []
  | (token, child) :: rest => ([token], child) :: child.descendants.map (Visit.under [token]) ++ argDescendants rest

end

section Visitors

variable {σ : Type} (visit : σ → List String → Node → σ × Bool)

theorem visitAll_append (state : σ) (first second : List Visit) :
    visitAll visit state (first ++ second) =
      match visitAll visit state first with
      | (state, false) => (state, false)
      | (state, true) => visitAll visit state second := by
  induction first generalizing state with
  | nil => rfl
  | cons v first ih =>
    obtain ⟨path, node⟩ := v
    rw [List.cons_append, visitAll, visitAll]
    rcases visit state path node with ⟨state, _ | _⟩
    · rfl
    · exact ih state

mutual

theorem walk_eq_visitAll : (node : Node) → (path : List String) → (state : σ) →
    node.walk visit path state = visitAll visit state (node.descendants.map (Visit.under path))
  | mk _ _ args, path, state => by
    rw [walk, descendants]
    exact walkArgs_eq_visitAll args path state

theorem walkArgs_eq_visitAll : (args : List (String × Node)) → (path : List String) → (state : σ) →
    walkArgs visit path state args = visitAll visit state ((argDescendants args).map (Visit.under path))
  | [], _, _ => rfl
  | (token, child) :: rest, path, state => by
    have hunder : (child.descendants.map (Visit.under [token])).map (Visit.under path) =
        child.descendants.map (Visit.under (path ++ [token])) := by
      simp [Visit.under, Function.comp_def]
    rw [walkArgs, argDescendants, List.map_append, List.map_cons, hunder, List.cons_append, visitAll]
    dsimp only [Visit.under]
    rcases visit state (path ++ [token]) child with ⟨state, _ | _⟩
    · rfl
    · dsimp only
      rw [visitAll_append, ← walk_eq_visitAll child]
      rcases child.walk visit (path ++ [token]) state with ⟨state, _ | _⟩
      · rfl
      · exact walkArgs_eq_visitAll rest path state

end

end Visitors

section Records

theorem visitAll_record_zero (seen visits : List Visit) : visitAll (record 0) seen visits = (seen ++ visits, true) := by
  induction visits generalizing seen with
  | nil => simp [visitAll]
  | cons v visits ih => simp [visitAll, record, ih]

theorem visitAll_record {limit : Nat} {seen : List Visit} (hseen : seen.length < limit) (visits : List Visit) :
    (visitAll (record limit) seen visits).1 = seen ++ visits.take (limit - seen.length) := by
  induction visits generalizing seen with
  | nil => simp [visitAll]
  | cons v visits ih =>
    have hlength : (seen ++ [v]).length = seen.length + 1 := by
      rw [List.length_append, List.length_singleton]
    have hrecord : record limit seen v.1 v.2 = (seen ++ [v], seen.length + 1 != limit) := by
      rw [record, hlength]
    have hleft : limit - seen.length = limit - (seen.length + 1) + 1 := by omega
    rw [visitAll, hrecord, hleft, List.take_succ_cons]
    by_cases hlast : seen.length + 1 = limit
    · simp [hlast]
    · rw [bne_iff_ne.mpr hlast]
      dsimp only
      rw [ih (by omega), hlength, List.append_assoc, List.singleton_append]

theorem walk_root {σ : Type} (visit : σ → List String → Node → σ × Bool) (state : σ) (node : Node) :
    node.walk visit [] state = visitAll visit state node.descendants := by
  rw [walk_eq_visitAll]
  congr
  exact List.map_id _

theorem visits_zero (node : Node) : node.visits 0 = node.descendants := by
  rw [visits, walk_root, visitAll_record_zero]
  rfl

theorem visits_succ (node : Node) (k : Nat) : node.visits (k + 1) = node.descendants.take (k + 1) := by
  rw [visits, walk_root, visitAll_record (by simp)]
  rfl

end Records

section Declarations

variable {keycode comment token : String} {args : List (String × Node)}

theorem map_fst_putArg (token : String) (node : Node) (args : List (String × Node)) :
    (putArg token node args).map Prod.fst =
      if token ∈ args.map Prod.fst then args.map Prod.fst else args.map Prod.fst ++ [token] := by
  induction args with
  | nil => rfl
  | cons arg args ih =>
    by_cases harg : arg.1 = token
    · simp [putArg, harg]
    · have hne : token ≠ arg.1 := Ne.symm harg
      rw [putArg, if_neg harg, List.map_cons, List.map_cons, ih]
      by_cases hin : token ∈ args.map Prod.fst
      · rw [if_pos hin, if_pos (List.mem_cons_of_mem _ hin)]
      · rw [if_neg hin, if_neg (List.not_mem_cons_of_ne_of_not_mem hne hin), List.cons_append]

theorem tokens_branch_concat (keycode comment : String) (args : List (String × Node)) (arg : String × Node) :
    (branch keycode comment (args ++ [arg])).tokens =
      if arg.1 ∈ (branch keycode comment args).tokens then (branch keycode comment args).tokens
      else (branch keycode comment args).tokens ++ [arg.1] := by
  rw [tokens, branch, Node.args, List.foldl_append]
  exact map_fst_putArg arg.1 arg.2 _

theorem mem_tokens_branch : token ∈ (branch keycode comment args).tokens ↔ token ∈ args.map Prod.fst := by
  induction args using List.reverseRecOn with
  | nil => rfl
  | append_singleton args arg ih =>
    rw [tokens_branch_concat, List.map_append, List.mem_append, ← ih]
    by_cases harg : arg.1 ∈ (branch keycode comment args).tokens
    · rw [if_pos harg, List.map_singleton, List.mem_singleton]
      exact ⟨.inl, fun h => h.elim id fun htoken => htoken ▸ harg⟩
    · rw [if_neg harg, List.mem_append]
      rfl

/-- Arguments stand where their tokens were first declared. -/
theorem tokens_branch_declared : (branch keycode comment args).tokens.Pairwise fun first second =>
    (args.map Prod.fst).idxOf first < (args.map Prod.fst).idxOf second := by
  induction args using List.reverseRecOn with
  | nil => exact .nil
  | append_singleton args arg ih =>
    have hmem {token : String} (h : token ∈ (branch keycode comment args).tokens) : token ∈ args.map Prod.fst :=
      mem_tokens_branch.mp h
    rw [tokens_branch_concat, List.map_append, List.map_singleton]
    by_cases harg : arg.1 ∈ (branch keycode comment args).tokens
    · rw [if_pos harg]
      exact pairwise_idxOf_concat (fun _ => hmem) ih arg.1
    · have hnew : arg.1 ∉ args.map Prod.fst := fun h => harg (mem_tokens_branch.mpr h)
      rw [if_neg harg]
      exact pairwise_concat_idxOf_concat (fun _ => hmem) ih hnew

theorem nodup_tokens_branch : (branch keycode comment args).tokens.Nodup := by
  refine tokens_branch_declared.imp ?_
  rintro first _ hlt rfl
  exact Nat.lt_irrefl _ hlt

end Declarations

section Paths

variable {node : Node}

theorem child_eq_some_iff (hnodup : node.tokens.Nodup) {token : String} {child : Node} :
    node.child? token = some child ↔ (token, child) ∈ node.args := by
  obtain ⟨keycode, comment, args⟩ := node
  change (args.map Prod.fst).Nodup at hnodup
  change args.lookup token = some child ↔ (token, child) ∈ args
  induction args with
  | nil => simp
  | cons arg args ih =>
    obtain ⟨first, n⟩ := arg
    obtain ⟨hfirst, hrest⟩ := List.nodup_cons.mp hnodup
    rw [lookup_cons_if, List.mem_cons, Prod.mk.injEq]
    by_cases htoken : token = first
    · subst htoken
      have hout : (token, child) ∉ args := fun h => hfirst (List.mem_map.mpr ⟨(token, child), h, rfl⟩)
      rw [if_pos rfl, Option.some_inj, or_iff_left hout, eq_comm, and_iff_right rfl]
    · rw [if_neg htoken, ih hrest, or_iff_right fun h => htoken h.1]

theorem descend_append (node : Node) (path more : List String) :
    node.descend? (path ++ more) = (node.descend? path).bind (descend? · more) := by
  induction path generalizing node with
  | nil => rfl
  | cons token path ih =>
    rw [List.cons_append, descend?, descend?]
    cases node.child? token with
    | none => rfl
    | some child => exact ih child

theorem descendants_eq (node : Node) : node.descendants = argDescendants node.args := by
  obtain ⟨keycode, comment, args⟩ := node
  rw [descendants, Node.args]

theorem mem_argDescendants {args : List (String × Node)} {v : Visit} : v ∈ argDescendants args ↔
    ∃ arg ∈ args, v = ([arg.1], arg.2) ∨ ∃ w ∈ arg.2.descendants, w.under [arg.1] = v := by
  induction args with
  | nil => simp [argDescendants]
  | cons arg args ih =>
    obtain ⟨token, child⟩ := arg
    rw [argDescendants, List.mem_append, List.mem_cons, List.mem_map, ih, List.exists_mem_cons_iff]

/-- The nodes below a node are those that tokens lead to, if it is so for its arguments. -/
theorem mem_descendants_step (hnodup : node.tokens.Nodup)
    (hargs : ∀ arg ∈ node.args, ∀ path child,
      (path, child) ∈ arg.2.descendants ↔ path ≠ [] ∧ arg.2.descend? path = some child)
    (path : List String) (child : Node) :
    (path, child) ∈ node.descendants ↔ path ≠ [] ∧ node.descend? path = some child := by
  rw [descendants_eq, mem_argDescendants]
  constructor
  · rintro ⟨⟨token, next⟩, harg, heq | ⟨⟨more, target⟩, hmore, heq⟩⟩
    · obtain ⟨rfl, rfl⟩ := Prod.mk.inj heq
      have hchild := (child_eq_some_iff hnodup).mpr harg
      exact ⟨List.cons_ne_nil _ _, by simp [descend?, hchild]⟩
    · obtain ⟨rfl, rfl⟩ := Prod.mk.inj heq
      have hchild := (child_eq_some_iff hnodup).mpr harg
      have hdown := ((hargs _ harg more target).mp hmore).2
      exact ⟨List.cons_ne_nil _ _, by simpa [descend?, hchild] using hdown⟩
  · rintro ⟨hne, hdown⟩
    obtain ⟨token, more, rfl⟩ := List.exists_cons_of_ne_nil hne
    obtain ⟨next, hchild, hdown⟩ := Option.bind_eq_some_iff.mp hdown
    have harg := (child_eq_some_iff hnodup).mp hchild
    refine ⟨(token, next), harg, ?_⟩
    by_cases hmore : more = []
    · subst hmore
      left
      rw [descend?, Option.some_inj] at hdown
      rw [hdown]
    · exact .inr ⟨(more, child), (hargs _ harg more child).mpr ⟨hmore, hdown⟩, rfl⟩

theorem mem_descendants (h : Built node) (path : List String) (child : Node) :
    (path, child) ∈ node.descendants ↔ path ≠ [] ∧ node.descend? path = some child := by
  induction h generalizing path child with
  | leaf keycode =>
    have hargs : (Node.leaf keycode).args = [] := rfl
    refine mem_descendants_step ?_ ?_ path child
    · rw [tokens, hargs]
      exact List.nodup_nil
    · simp [hargs]
  | branch keycode comment _ ih =>
    refine mem_descendants_step nodup_tokens_branch ?_ path child
    intro arg harg path child
    have hgiven : arg ∈ _ := mem_of_child_branch ((child_eq_some_iff nodup_tokens_branch).mpr harg)
    exact ih arg hgiven path child

end Paths

section Order

variable {node : Node}

theorem Precedes.under {child : Node} {token : String} {path other : List String} (h : child.Precedes path other)
    (hchild : node.child? token = some child) : node.Precedes (token :: path) (token :: other) := by
  cases h with
  | extension path next more => exact .extension (token :: path) next more
  | @sibling common keycode comment args _ _ hnode hdeclared path other =>
    have hdown : node.descend? (token :: common) = some (Node.branch keycode comment args) := by
      rw [descend?, hchild]
      exact hnode
    exact .sibling hdown hdeclared path other

theorem Precedes.ne {path other : List String} (h : node.Precedes path other) : path ≠ other := by
  cases h with
  | extension path token more => simp
  | sibling hnode hdeclared path other =>
    intro heq
    rw [List.append_cancel_left_eq, List.cons.injEq] at heq
    rw [heq.1] at hdeclared
    exact Nat.lt_irrefl _ hdeclared

theorem starts_of_mem_argDescendants {args : List (String × Node)} {v : Visit} (h : v ∈ argDescendants args) :
    ∃ token ∈ args.map Prod.fst, ∃ more, v.1 = token :: more := by
  obtain ⟨arg, harg, rfl | ⟨w, -, rfl⟩⟩ := mem_argDescendants.mp h
  · exact ⟨arg.1, List.mem_map_of_mem harg, [], rfl⟩
  · exact ⟨arg.1, List.mem_map_of_mem harg, w.1, rfl⟩

/-- What arguments lead to is in order if they are declared in order and it is so below each of them. -/
theorem argDescendants_ordered {keycode comment : String} {given args : List (String × Node)}
    (hnode : node = branch keycode comment given)
    (hchild : ∀ arg ∈ args, node.child? arg.1 = some arg.2)
    (hdeclared : (args.map Prod.fst).Pairwise fun first second =>
      (given.map Prod.fst).idxOf first < (given.map Prod.fst).idxOf second)
    (hbelow : ∀ arg ∈ args, arg.2.descendants.Pairwise fun v w => arg.2.Precedes v.1 w.1) :
    (argDescendants args).Pairwise fun v w => node.Precedes v.1 w.1 := by
  induction args with
  | nil => exact .nil
  | cons arg args ih =>
    obtain ⟨token, child⟩ := arg
    obtain ⟨hfirst, hchild⟩ := List.forall_mem_cons.mp hchild
    obtain ⟨hearlier, hdeclared⟩ := List.pairwise_cons.mp hdeclared
    obtain ⟨hordered, hbelow⟩ := List.forall_mem_cons.mp hbelow
    rw [argDescendants, List.pairwise_append]
    refine ⟨List.pairwise_cons.mpr ⟨?_, ?_⟩, ih hchild hdeclared hbelow, ?_⟩
    · intro v hv
      obtain ⟨w, hw, rfl⟩ := List.mem_map.mp hv
      rw [descendants_eq] at hw
      obtain ⟨next, -, more, hnext⟩ := starts_of_mem_argDescendants hw
      rw [Visit.under, hnext]
      exact .extension [token] next more
    · rw [List.pairwise_map]
      exact hordered.imp fun h => h.under hfirst
    · intro v hv w hw
      obtain ⟨path, hpath⟩ : ∃ path, v.1 = token :: path := by
        rcases List.mem_cons.mp hv with rfl | hv
        · exact ⟨[], rfl⟩
        · obtain ⟨u, -, rfl⟩ := List.mem_map.mp hv
          exact ⟨u.1, rfl⟩
      obtain ⟨later, hlater, other, hother⟩ := starts_of_mem_argDescendants hw
      have hroot : node.descend? [] = some (branch keycode comment given) := congrArg some hnode
      rw [hpath, hother]
      exact .sibling hroot (hearlier later hlater) path other

theorem descendants_ordered (h : Built node) : node.descendants.Pairwise fun v w => node.Precedes v.1 w.1 := by
  induction h with
  | leaf keycode => exact .nil
  | @branch keycode comment given _ ih =>
    have hchild : ∀ arg ∈ (branch keycode comment given).args,
        (branch keycode comment given).child? arg.1 = some arg.2 := fun arg harg =>
      (child_eq_some_iff nodup_tokens_branch).mpr harg
    rw [descendants_eq]
    refine argDescendants_ordered rfl hchild tokens_branch_declared ?_
    intro arg harg
    exact ih arg (mem_of_child_branch (hchild arg harg))

end Order

/-- A walk visits what tokens lead to, each path once and in order, with the node that was given last for its tokens.
Any visitor sees these visits one after the other, and one that stops at its call number `k + 1` has seen the first
`k + 1` of them. -/
theorem walk_visits_each_path {node : Node} (h : Built node) :
    (∀ path child, (path, child) ∈ node.visits 0 ↔ path ≠ [] ∧ node.descend? path = some child) ∧
    ((node.visits 0).map Prod.fst).Nodup ∧
    (node.visits 0).Pairwise (fun v w => node.Precedes v.1 w.1) ∧
    (∀ path keycode comment args, node.descend? path = some (branch keycode comment args) →
      ∀ token child, (path ++ [token], child) ∈ node.visits 0 ↔ args.reverse.lookup token = some child) ∧
    (∀ (σ : Type) (visit : σ → List String → Node → σ × Bool) (state : σ),
      node.walk visit [] state = visitAll visit state (node.visits 0)) ∧
    ∀ k, node.visits (k + 1) = (node.visits 0).take (k + 1) := by
  rw [visits_zero]
  refine ⟨mem_descendants h, ?_, descendants_ordered h, ?_, fun σ visit state => walk_root visit state node,
    visits_succ node⟩
  · rw [List.Nodup, List.pairwise_map]
    exact (descendants_ordered h).imp Precedes.ne
  · intro path keycode comment args hpath token child
    have hne : path ++ [token] ≠ [] := List.append_ne_nil_of_right_ne_nil path (List.cons_ne_nil token [])
    have hstep (n : Node) : n.descend? [token] = n.child? token := by simp [descend?]
    rw [mem_descendants h, and_iff_right hne, descend_append, hpath, Option.bind_some, hstep, child_branch]

/-- At both levels a token is given twice. -/
def repeatedTree : Node :=
  branch "" "" [("A", leaf "11"), ("B", branch "12" "" [("1", leaf "7"), ("2", leaf "8"), ("1", leaf "9")]),
    ("A", branch "13" "" [("X", leaf "4")])]

theorem walk_visits_each_path_repeated : Built repeatedTree ∧
    (repeatedTree.visits 0).map Prod.fst = [["A"], ["A", "X"], ["B"], ["B", "1"], ["B", "2"]] ∧
    (["B", "1"], leaf "9") ∈ repeatedTree.visits 0 ∧ repeatedTree.Precedes ["A", "X"] ["B"] ∧
    repeatedTree.visits 3 = (repeatedTree.visits 0).take 3 := by
  have hbuilt : Built repeatedTree := by
    refine .branch "" "" ?_
    simp only [List.forall_mem_cons, List.not_mem_nil, false_implies, implies_true, and_true]
    refine ⟨.leaf "11", .branch "12" "" ?_, .branch "13" "" ?_⟩
    · simp only [List.forall_mem_cons, List.not_mem_nil, false_implies, implies_true, and_true]
      exact ⟨.leaf "7", .leaf "8", .leaf "9"⟩
    · simp only [List.forall_mem_cons, List.not_mem_nil, false_implies, implies_true, and_true]
      exact .leaf "4"
  obtain ⟨hmem, -, hordered, -, -, htake⟩ := walk_visits_each_path hbuilt
  refine ⟨hbuilt, rfl, (hmem _ _).mpr ⟨List.cons_ne_nil _ _, rfl⟩, ?_, htake 2⟩
  exact List.pairwise_iff_getElem.mp hordered 1 2 (by decide) (by decide) (by decide)

end Keystroke.Command.Node
