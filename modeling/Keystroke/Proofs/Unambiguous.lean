import Keystroke.Proofs.Keypad

/-! On the HP-15C the descent never has to go back: however the front of a statement is cut into spellings of
a path, the descent takes that path. The one exception is `C` followed by `Y,X`, which is `Cy,x`. -/
namespace Keystroke.Statement

open Keystroke.Command Keystroke.Text
set_option maxRecDepth 20000

/-- Words that begin with the two words of `Cy,x`. -/
def StartsWithCyx : List String → Prop
  | first :: second :: _ => fold first = "C" ∧ fold second = "Y,X"
  | _ => False

theorem selects_pair_token {node : Node} {pair : Group} (hs : Selects Table.standard node pair)
    {first second : String} (hw : pair.words = [first, second]) :
    pair.token ∈ pairTokens ∧ (fold first ∈ pairHeads ∨
      fold first = "C" ∧ fold second = "Y,X" ∧ pair.token = "Cy,x") := by
  have hc := hs.spelling
  rw [hw, String.intercalate_cons_cons, String.intercalate_singleton] at hc
  exact standard_pair hc

/-- Below the root no two words select an argument, so every cut is greedy. -/
theorem greedy_of_simple {node : Node} {groups : List Group} (rest : List String)
    (hs : Spells Table.standard node groups) (hn : Simple node) :
    Greedy Table.standard node groups rest := by
  induction hs with
  | nil => trivial
  | cons hsel _ ih =>
    refine ⟨?_, ih (Node.Below.child hn hsel.child).2⟩
    intro pair hpair hl _
    obtain ⟨first, second, hw⟩ := List.length_eq_two.mp hl
    exact absurd (selects_pair_token hpair hw).1 (Node.Below.child hn hpair.child).1

/-- At the root only the first word of `Cy,x` is a command and the beginning of a longer spelling. -/
theorem greedy_of_spells {groups : List Group} {rest : List String}
    (hs : Spells Table.standard standardRoot groups)
    (hcyx : ¬ StartsWithCyx (flatWords groups ++ rest)) :
    Greedy Table.standard standardRoot groups rest := by
  cases hs with
  | nil => trivial
  | @cons _ group groups hsel hspells =>
    refine ⟨?_, greedy_of_simple rest hspells (standardRoot_simple hsel.child)⟩
    intro pair hpair hl hp
    obtain ⟨first, second, hw⟩ := List.length_eq_two.mp hl
    rw [hw] at hp ⊢
    rcases hsel.length with hone | htwo
    · obtain ⟨word, hword⟩ := List.length_eq_one_iff.mp hone
      -- The group is the first word of the pair alone.
      have hfirst : word = first := by
        rw [hword] at hp
        simpa using (List.cons_prefix_cons.mp hp).1.symm
      have hspelled := hsel.spelling
      rw [hword, hfirst, String.intercalate_singleton] at hspelled
      rcases (selects_pair_token hpair hw).2 with hhead | ⟨hc, hyx, _⟩
      · rw [pairHeads_not_spelled _ hhead] at hspelled
        simp at hspelled
      · refine absurd ?_ hcyx
        obtain ⟨tail, ht⟩ := hp
        rw [flatWords_cons, ← ht]
        exact ⟨hc, hyx⟩
    · obtain ⟨a, b, hab⟩ := List.length_eq_two.mp htwo
      rw [hab] at hp ⊢
      exact (eq_pair_of_front (by simp) hp).symm

theorem stuck_of_complete {table : Table} {node : Node} (h : node.isComplete) (words : List String) :
    Stuck table node words := by
  intro group hs _
  have hargs : node.args = [] := by simpa [Node.isComplete] using h
  have hc := hs.child
  simp [Node.child?, hargs] at hc

/-- The words of a statement are read as one instruction with a given path, before the given rest. -/
def ReadsAs (table : Table) (statement path rest : List String) : Prop :=
  ∃ record, record.path = path ∧
    resolveWords table statement = .ok { records := [record], rest := rest } ∧
    ∀ words, table.expand (dropShift words) = statement →
      resolve table words = .ok { records := [record], rest := rest }

theorem Walk.readsAs {table : Table} {statement rest : List String} {groups : List Group}
    (hw : Walk table table.root statement groups rest) (hne : groups ≠ [])
    (hc : (lastNode table.root groups).isComplete) :
    ReadsAs table statement (groups.map Group.token) rest := by
  have hr := hw.resolveWords_eq (.command hne hc)
  refine ⟨_, rfl, hr, ?_⟩
  intro words he
  have hstatement : dropShift words ≠ [] := by
    intro hnil
    rw [hnil] at he
    have hflat := hw.spells.flatWords_ne_nil hne
    rw [hw.split, show table.expand [] = [] from rfl] at he
    simp [hflat] at he
  rw [resolve_of_statement hstatement, he, hr]

theorem standard_cyx_selects {first second : String} (hc : fold first = "C")
    (hyx : fold second = "Y,X") :
    ∃ node : Node, node.isComplete ∧
      Selects Table.standard standardRoot ⟨[first, second], "Cy,x", node⟩ := by
  have hnode : standardRoot.child? "Cy,x" = some (Node.leaf "40") := by
    rw [standardRoot, Node.child_branch]
    rfl
  have hfold := (fold_pair_iff first second "C" "Y,X" (by decide) (by decide) (by decide)).mpr
    ⟨hc, hyx⟩
  have hlookup : Alias.lookup? standardAliases "C Y,X" = some "Cy,x" := by decide
  refine ⟨_, rfl, Or.inr rfl, ?_, hnode⟩
  rw [String.intercalate_cons_cons, String.intercalate_singleton, hfold,
    show "C" ++ " " ++ "Y,X" = "C Y,X" from rfl, standard_canonical _ (by decide), hlookup]

/-- However the front of a statement is cut into spellings of a path to a complete node, the descent ends
at a complete node, and that path is read with the words after the cut as rest. Only a statement that begins
with `C` and `Y,X` is read as `Cy,x`, whatever the cut. -/
theorem standard_cut_is_read (statement rest : List String) (groups : List Group)
    (hcut : statement = flatWords groups ++ rest)
    (hs : Spells Table.standard Table.standard.root groups)
    (hleaf : (lastNode Table.standard.root groups).isComplete) :
    (descend Table.standard Table.standard.root statement).node.isComplete ∧
    (¬ StartsWithCyx statement →
      ReadsAs Table.standard statement (groups.map Group.token) rest) ∧
    (StartsWithCyx statement →
      ReadsAs Table.standard statement ["Cy,x"] (statement.drop 2)) := by
  by_cases hcyx : StartsWithCyx statement
  · match statement, hcyx with
    | first :: second :: others, ⟨hc, hyx⟩ =>
      obtain ⟨node, hnode, hsel⟩ := standard_cyx_selects hc hyx
      have hw : Walk Table.standard Table.standard.root (first :: second :: others)
          [⟨[first, second], "Cy,x", node⟩] others :=
        ⟨rfl, .cons hsel (.nil node), ⟨fun pair _ hl hp => (eq_pair_of_front hl hp).symm, trivial⟩,
          stuck_of_complete hnode others⟩
      refine ⟨?_, fun h => absurd ⟨hc, hyx⟩ h, fun _ => hw.readsAs (by simp) hnode⟩
      rw [hw.descend_eq, Descent.after_node]
      exact hnode
  · have hw : Walk Table.standard Table.standard.root statement groups rest :=
      ⟨hcut, hs, greedy_of_spells hs (hcut ▸ hcyx), stuck_of_complete hleaf rest⟩
    -- The root itself is not complete, so there is a group.
    have hne : groups ≠ [] := by
      rintro rfl
      exact absurd hleaf (by decide)
    refine ⟨?_, fun _ => hw.readsAs hne hleaf, fun h => absurd h hcyx⟩
    rw [hw.descend_eq, Descent.after_node]
    exact hleaf

/-- The node of jumps to a label. -/
def jumpNode : Node :=
  Node.branch "22" "" (labelArgs ++ [indexArg])

theorem standard_cut_is_read_jump :
    Spells Table.standard Table.standard.root
      [⟨["go", "to"], "GTO", jumpNode⟩, ⟨["11"], ".1", Node.leaf ".1"⟩] ∧
    ReadsAs Table.standard ["go", "to", "11", "Y,X"] ["GTO", ".1"] ["Y,X"] := by
  have hgoto : Alias.lookup? standardAliases "GO TO" = some "GTO" := by decide
  have hlabel : Alias.lookup? standardAliases "11" = some ".1" := by decide
  have hs : Spells Table.standard Table.standard.root
      [⟨["go", "to"], "GTO", jumpNode⟩, ⟨["11"], ".1", Node.leaf ".1"⟩] := by
    refine .cons ⟨Or.inr rfl, ?_, ?_⟩ (.cons ⟨Or.inl rfl, ?_, ?_⟩ (.nil _))
    · rw [show fold (" ".intercalate ["go", "to"]) = "GO TO" by decide,
        standard_canonical _ (by decide), hgoto]
    · rw [show Table.standard.root = standardRoot from rfl, standardRoot, Node.child_branch]
      rfl
    · rw [show fold (" ".intercalate ["11"]) = "11" by decide,
        standard_canonical _ (by decide), hlabel]
    · rw [jumpNode, Node.child_branch]
      rfl
  refine ⟨hs, (standard_cut_is_read ["go", "to", "11", "Y,X"] ["Y,X"] _ rfl hs rfl).2.1 ?_⟩
  rintro ⟨hc, _⟩
  exact absurd hc (by decide)

end Keystroke.Statement
