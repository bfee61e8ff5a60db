import Keystroke.Proofs.Shortcuts

/-! Completion of a command that lacks an argument. Every argument that is offered for it is a spelling of itself, in
which the words before it still mean what they meant: no shift key or shortcut is seen in front, and no word is taken
together with the one behind it. So the command is complete with it, or lacks a further argument only. -/
namespace Keystroke.Command

open Keystroke.Text
set_option maxRecDepth 20000

namespace Node

mutual

/-- Whether all tokens below a node have a property. -/
def allBelow (p : String → Bool) : Node → Bool
  | mk _ _ args => allBelowArgs p args

/-- Whether the tokens of arguments and all those below them have a property. -/
def allBelowArgs (p : String → Bool) : List (String × Node) → Bool
  | [] => true
  | (token, node) :: rest => p token && node.allBelow p && allBelowArgs p rest

end

mutual

theorem below_of_allBelow {p : String → Bool} :
    (node : Node) → node.allBelow p = true → node.Below fun token => p token = true
  | mk keycode comment args, h => by
    have hargs := allBelowArgs_mem args h
    refine .intro ?_ ?_
    · intro token child hc
      exact (hargs (token, child) (Text.mem_of_lookup hc)).1
    · intro token child hc
      exact (hargs (token, child) (Text.mem_of_lookup hc)).2

theorem allBelowArgs_mem {p : String → Bool} : (args : List (String × Node)) → allBelowArgs p args = true →
    ∀ arg ∈ args, p arg.1 = true ∧ arg.2.Below fun token => p token = true
  | [], _ => by simp
  | (token, node) :: rest, h => by
    rw [allBelowArgs, Bool.and_eq_true, Bool.and_eq_true] at h
    intro arg ha
    rcases List.mem_cons.mp ha with rfl | ha
    · exact ⟨h.1.1, below_of_allBelow node h.1.2⟩
    · exact allBelowArgs_mem rest h.2 arg ha

end

end Node

/-- The commands that ask for an argument. -/
def openCommands : List String :=
  ["GTO", "GSB", "STO", "uSTO", "RCL", "uRCL", "MATRIX", "FIX", "SCI", "ENG", "SOLVE", "LBL", "HYP", "DIM", "RESULT",
   "x><", "DSE", "ISG", "INTEGRATE", "HYP^-1", "SF", "CF", "F?", "TEST"]

/-- The arguments of all commands. -/
def argumentTokens : List String :=
  (labelArgs ++ [indirectArg, indexArg] ++ trigonometryArgs).map Prod.fst ++
    ["÷", "×", "-", "+", "RAN#", "RESULT", "g", "MATRIX", "DIM"]

/-- Commands that are not complete, their arguments and the spellings of both, as they are declared. -/
theorem openCommands_checked :
    (standardRoot.args.all fun arg => arg.2.isComplete ||
      openCommands.contains arg.1 && arg.2.allBelow argumentTokens.contains) = true ∧
    (argumentTokens.all fun token => Alias.lookup? standardAliases (fold token) == some token &&
      !(["R-v", "R-V", "d%", "D%"].contains (fold token))) = true ∧
    (standardAliases.all fun a => !openCommands.contains a.token ||
      !(["R-v", "d%", "F", "G", "C"].contains a.spelling) &&
        (Alias.lookup? standardShortcuts a.spelling).isNone) = true := by
  decide +kernel

/-- An argument is a spelling of itself. -/
theorem argumentTokens_spelled {token : String} (h : token ∈ argumentTokens) :
    Table.standard.canonical? (fold token) = some token := by
  have hchecked := List.all_eq_true.mp openCommands_checked.2.1 token h
  simp only [Bool.and_eq_true, beq_iff_eq, Bool.not_eq_true', List.contains_eq_mem,
    decide_eq_false_iff_not] at hchecked
  obtain ⟨hlookup, hplain⟩ := hchecked
  rw [standard_canonical _ hplain, hlookup]

theorem standardRoot_open {token : String} {node : Node} (h : standardRoot.child? token = some node)
    (hc : node.isComplete = false) : token ∈ openCommands ∧ node.Below (· ∈ argumentTokens) := by
  have hchecked := List.all_eq_true.mp openCommands_checked.1 (token, node) (Text.mem_of_lookup h)
  simp only [hc, Bool.false_or, Bool.and_eq_true, List.contains_iff_mem] at hchecked
  have hbelow := Node.below_of_allBelow node hchecked.2
  simp only [List.contains_iff_mem] at hbelow
  exact ⟨hchecked.1, hbelow⟩

/-- A spelling of a command that asks for an argument is no shortcut, nor a shift key or the first word of `Cy,x`. -/
theorem openCommands_spelled {spelling token : String} (h : Table.standard.canonical? spelling = some token)
    (ht : token ∈ openCommands) :
    spelling ∉ ["F", "G", "C"] ∧ Table.standard.shortcut? spelling = none := by
  rw [Table.standard, Table.build_canonical] at h
  obtain ⟨a, ha, he⟩ := List.mem_map.mp (Alias.mem_of_lookup h)
  obtain ⟨hs, rfl⟩ := Alias.mk.inj he
  have hchecked := List.all_eq_true.mp openCommands_checked.2.2 a ha
  simp only [List.contains_iff_mem.mpr ht, Bool.not_true, Bool.false_or, Bool.and_eq_true, Bool.not_eq_true',
    List.contains_eq_mem, decide_eq_false_iff_not, Option.isNone_iff_eq_none, List.mem_cons, not_or] at hchecked
  obtain ⟨⟨hv, hd, hplain⟩, hnone⟩ := hchecked
  have hfold : fold a.spelling = a.spelling := by
    rcases fold_standard_spelling a ha with hf | ⟨hf, -⟩ | ⟨hf, -⟩
    · exact hf
    · exact absurd hf hv
    · exact absurd hf hd
  rw [← hs, hfold, standard_shortcut]
  exact ⟨by simpa using hplain, hnone⟩

end Keystroke.Command

namespace Keystroke.Statement

open Keystroke.Command Keystroke.Text
set_option maxRecDepth 20000

/-- The first word of a command that asks for an argument. -/
structure OpensCommand (word : String) (others : List String) : Prop where
  plain : fold word ∉ ["F", "G", "C"]
  alone : Table.standard.shortcut? (fold word) = none
  paired : ∀ second ∈ others.head?, Table.standard.shortcut? (fold (word ++ " " ++ second)) = none

theorem Selects.opensCommand {group : Group} (hs : Selects Table.standard standardRoot group)
    (hc : group.node.isComplete = false) :
    ∃ word others, group.words = word :: others ∧ OpensCommand word others := by
  have hheads : ∀ head ∈ pairHeads, head ∉ ["F", "G", "C"] ∧ Alias.lookup? standardShortcuts head = none := by decide
  have hcyx : "Cy,x" ∉ openCommands := by decide
  have hopen := (standardRoot_open hs.child hc).1
  obtain ⟨hplain, hnone⟩ := openCommands_spelled hs.spelling hopen
  rcases hs.length with hone | htwo
  · obtain ⟨word, hw⟩ := List.length_eq_one_iff.mp hone
    rw [hw, String.intercalate_singleton] at hplain hnone
    exact ⟨word, [], hw, hplain, hnone, by simp⟩
  · obtain ⟨first, second, hw⟩ := List.length_eq_two.mp htwo
    rw [hw, String.intercalate_cons_cons, String.intercalate_singleton] at hnone
    have hhead : fold first ∈ pairHeads := by
      rcases (selects_pair_token hs hw).2 with hhead | ⟨-, -, ht⟩
      · exact hhead
      · exact absurd (ht ▸ hopen) hcyx
    obtain ⟨hfirst, hlookup⟩ := hheads _ hhead
    refine ⟨first, [second], hw, hfirst, by rw [standard_shortcut, hlookup], ?_⟩
    rintro _ ⟨⟩
    exact hnone

theorem lastNode_append (node : Node) (groups others : List Group) :
    lastNode node (groups ++ others) = lastNode (lastNode node groups) others := by
  induction groups generalizing node with
  | nil => rfl
  | cons group groups ih => exact ih group.node

theorem Spells.snoc {table : Table} {node : Node} {groups : List Group} {group : Group}
    (hs : Spells table node groups) (hg : Selects table (lastNode node groups) group) :
    Spells table node (groups ++ [group]) := by
  induction hs with
  | nil node => exact .cons hg (.nil _)
  | cons hsel _ ih => exact .cons hsel (ih hg)

theorem not_complete_of_child {node child : Node} {token : String} (h : node.child? token = some child) :
    node.isComplete = false := by
  have hne : node.args ≠ [] := List.ne_nil_of_mem (Text.mem_of_lookup h)
  simpa [Node.isComplete] using hne

/-- A command with an argument behind it keeps shortcuts and shift keys away from its front. -/
theorem settled_of_spells {first second : Group} {groups : List Group}
    (hs : Spells Table.standard standardRoot (first :: second :: groups)) :
    Settled Table.standard (flatWords (first :: second :: groups)) ∧
      ∀ tail, ¬ StartsWithCyx (flatWords (first :: second :: groups) ++ tail) := by
  have hends : ∀ pair ∈ shortcutPairs, pair.2 ∉ ["R-v", "R-V", "d%", "D%"] ∧
      Alias.lookup? standardAliases pair.2 = some pair.2 ∧ pair.2 ∉ argumentTokens := by decide
  cases hs with
  | cons hfirst hrest =>
  cases hrest with
  | cons hsecond hrest =>
    have hopen := not_complete_of_child hsecond.child
    obtain ⟨word, others, hwords, hword⟩ := hfirst.opensCommand hopen
    have hargument := ((standardRoot_open hfirst.child hopen).2.child hsecond.child).1
    -- No argument has a spelling of two words.
    obtain ⟨next, hnext⟩ : ∃ next, second.words = [next] := by
      rcases hsecond.length with hone | htwo
      · exact List.length_eq_one_iff.mp hone
      · obtain ⟨a, b, hab⟩ := List.length_eq_two.mp htwo
        have hsimple := (standardRoot_simple hfirst.child).child hsecond.child
        exact absurd (selects_pair_token hsecond hab).1 hsimple.1
    have hspelled := hsecond.spelling
    rw [hnext, String.intercalate_singleton] at hspelled
    rw [flatWords_cons, flatWords_cons, hwords, hnext, List.cons_append]
    refine ⟨settled_cons ?_ hword.alone ?_, ?_⟩
    · intro hshift
      exact hword.plain (List.mem_append_left ["C"] hshift)
    · intro tail v hv
      cases others with
      | cons w others =>
        -- Both words spell the command.
        apply hword.paired
        simpa using hv
      | nil =>
        -- The word behind spells an argument, and no shortcut of two words ends in one.
        obtain rfl : v = next := by simpa using hv.symm
        apply standard_pair_no_shortcut
        intro hm
        obtain ⟨hplain, hlookup, hnot⟩ := hends _ hm
        rw [standard_canonical _ hplain, hlookup] at hspelled
        exact hnot (Option.some.inj hspelled ▸ hargument)
    · intro tail hcyx
      have hc := hcyx.fold_head
      exact hword.plain (by simp [hc])

theorem Spells.lastNode_below {table : Table} {P : String → Prop} {node : Node} {groups : List Group}
    (hs : Spells table node groups) (hb : node.Below P) : (lastNode node groups).Below P := by
  induction hs with
  | nil => exact hb
  | cons hsel _ ih => exact ih (hb.child hsel.child).2

/-- An argument of the node where a command stops is selected by its own token. -/
theorem Spells.selects_argument {groups : List Group} (hs : Spells Table.standard standardRoot groups)
    (hne : groups ≠ []) {token : String} {child : Node}
    (hc : (lastNode standardRoot groups).child? token = some child) :
    Selects Table.standard (lastNode standardRoot groups) ⟨[token], token, child⟩ := by
  cases hs with
  | nil => exact absurd rfl hne
  | @cons _ first others hfirst hrest =>
    have hopen : first.node.isComplete = false := by
      cases hrest with
      | nil => exact not_complete_of_child hc
      | cons hsecond _ => exact not_complete_of_child hsecond.child
    have hbelow := hrest.lastNode_below (standardRoot_open hfirst.child hopen).2
    refine ⟨Or.inl rfl, ?_, hc⟩
    rw [String.intercalate_singleton]
    exact argumentTokens_spelled (hbelow.child hc).1

/-- A command that was begun, with one more of its arguments, is read as far as this argument. -/
theorem Spells.walk_argument {groups : List Group} (hs : Spells Table.standard standardRoot groups)
    (hne : groups ≠ []) {token : String} {child : Node}
    (hc : (lastNode standardRoot groups).child? token = some child) :
    Walk Table.standard Table.standard.root (flatWords groups ++ [token]) (groups ++ [⟨[token], token, child⟩]) [] ∧
      resolve Table.standard (flatWords groups ++ [token]) =
        resolveWords Table.standard (flatWords groups ++ [token]) := by
  have hspells := hs.snoc (hs.selects_argument hne hc)
  have hflat : flatWords (groups ++ [⟨[token], token, child⟩]) = flatWords groups ++ [token] := by
    simp [flatWords]
  have htwo : Settled Table.standard (flatWords groups ++ [token]) ∧
      ∀ tail, ¬ StartsWithCyx (flatWords groups ++ [token] ++ tail) := by
    rw [← hflat]
    cases groups with
    | nil => exact absurd rfl hne
    | cons first others =>
      cases others with
      | nil => exact settled_of_spells hspells
      | cons second others => exact settled_of_spells hspells
  obtain ⟨hsettled, hcyx⟩ := htwo
  constructor
  · refine ⟨by simp [hflat], hspells, ?_, stuck_nil _ _⟩
    apply greedy_of_spells hspells
    rw [hflat]
    exact hcyx []
  · have hdrop : dropShift (flatWords groups ++ [token]) = flatWords groups ++ [token] := by
      simpa using hsettled.dropShift []
    have hexpand : Table.standard.expand? (flatWords groups ++ [token]) = none := by
      simpa using hsettled.expand []
    rw [resolve_of_statement (by simp [hdrop]), hdrop, expand_of_none hexpand]

/-- A statement read to its end with a given path: one instruction, or the lack of a further argument. -/
def ReadsTo (r : Resolution) (path : List String) : Prop :=
  r.rest = [] ∧
    (r.diagnostic = none ∧ r.records.map Record.path = [path] ∨
      r.records = [] ∧ ∃ d, r.diagnostic = some d ∧ (d.kind = .noArgument ∨ d.kind = .argumentMissing) ∧ d.path = path)

theorem Spells.reads_argument {groups : List Group} (hs : Spells Table.standard standardRoot groups)
    (hne : groups ≠ []) {arg : String × Node} (ha : arg ∈ (lastNode standardRoot groups).args) :
    ∃ r, resolve Table.standard (flatWords groups ++ [arg.1]) = .ok r ∧
      ReadsTo r (groups.map Group.token ++ [arg.1]) := by
  obtain ⟨child, hc⟩ : ∃ child, (lastNode standardRoot groups).child? arg.1 = some child :=
    Option.isSome_iff_exists.mp (List.lookup_isSome_iff.mpr ⟨arg, ha, beq_self_eq_true arg.1⟩)
  obtain ⟨hw, hr⟩ := hs.walk_argument hne hc
  have hgroups : groups ++ [⟨[arg.1], arg.1, child⟩] ≠ [] := by simp
  have hlast : (lastNode Table.standard.root (groups ++ [⟨[arg.1], arg.1, child⟩])).isComplete = child.isComplete :=
    congrArg Node.isComplete (lastNode_append _ _ _)
  rw [hr]
  cases hcomplete : child.isComplete with
  | true =>
    rw [hcomplete] at hlast
    refine ⟨_, hw.resolveWords_eq (.command hgroups hlast), rfl, Or.inl ⟨rfl, ?_⟩⟩
    simp [Record.ofPath]
  | false =>
    rw [hcomplete] at hlast
    refine ⟨_, hw.resolveWords_eq (.missing hgroups hlast rfl), rfl, Or.inr ⟨rfl, _, rfl, ?_, ?_⟩⟩
    · dsimp only
      split_ifs
      · exact Or.inl rfl
      · exact Or.inr rfl
    · simp

/-- A diagnostic that asks for an argument: the command was begun, and what it offers is what can follow there. -/
structure Asks (table : Table) (groups : List Group) (d : Diagnostic) : Prop where
  begun : groups ≠ []
  words : d.words.take d.used = flatWords groups
  path : d.path = groups.map Group.token
  offers : d.alternatives = alternatives (lastNode table.root groups)

theorem Outcome.asks {table : Table} {statement rest : List String} {groups : List Group} {r : Resolution}
    {d : Diagnostic} (ho : Outcome table statement groups rest r) (hsplit : statement = flatWords groups ++ rest)
    (hd : r.diagnostic = some d) (hkind : d.kind ∈ [.noArgument, .argumentMissing, .argumentInvalid]) :
    Asks table groups d := by
  cases ho with
  | command | literal => simp at hd
  | expression | unknown =>
    obtain rfl := Option.some.inj hd
    simp at hkind
  | missing hg _ hr =>
    obtain rfl := Option.some.inj hd
    refine ⟨hg, ?_, rfl, rfl⟩
    rw [List.take_length, hsplit, hr, List.append_nil]
  | invalid hg _ _ =>
    obtain rfl := Option.some.inj hd
    refine ⟨hg, ?_, rfl, rfl⟩
    rw [hsplit, List.take_left]

/-- Whatever is offered where an argument is missing or invalid is accepted there on the HP-15C. -/
theorem standard_offers_are_accepted (words : List String) (r : Resolution) (d : Diagnostic)
    (h : resolve Table.standard words = .ok r) (hd : r.diagnostic = some d)
    (hkind : d.kind ∈ [.noArgument, .argumentMissing, .argumentInvalid]) (a : Alternative)
    (ha : a ∈ d.alternatives) :
    ∃ r', resolve Table.standard (d.words.take d.used ++ [a.token]) = .ok r' ∧
      ReadsTo r' (d.path ++ [a.token]) := by
  rcases resolve_ok_cases h with rfl | ⟨groups, rest, hw, ho⟩
  · simp at hd
  · have hasks := ho.asks hw.split hd hkind
    rw [hasks.offers, alternatives] at ha
    obtain ⟨arg, harg, rfl⟩ := List.mem_map.mp ha
    rw [hasks.words, hasks.path]
    exact hw.spells.reads_argument hasks.begun harg

/-- The groups of a command that adds to a register which is not named. -/
def addingGroups : List Group :=
  [⟨["STO"], "STO", storageNode "44" []⟩, ⟨["+"], "+", Node.branch "40" "" registerArgs⟩]

theorem addingGroups_spell : Spells Table.standard Table.standard.root addingGroups := by
  have hsto : Alias.lookup? standardAliases "STO" = some "STO" := by decide
  have hplus : Alias.lookup? standardAliases "+" = some "+" := by decide
  refine .cons ⟨Or.inl rfl, ?_, ?_⟩ (.cons ⟨Or.inl rfl, ?_, ?_⟩ (.nil _))
  · rw [show fold (" ".intercalate ["STO"]) = "STO" by decide, standard_canonical _ (by decide), hsto]
  · rw [show Table.standard.root = standardRoot from rfl, standardRoot, Node.child_branch]
    rfl
  · rw [show fold (" ".intercalate ["+"]) = "+" by decide, standard_canonical _ (by decide), hplus]
  · rw [storageNode, Node.child_branch]
    rfl

theorem adding_expand : Table.standard.expand (dropShift ["f", "sto+"]) = ["STO", "+"] := by
  have hshift : dropShift ["f", "sto+"] = ["sto+"] := by decide
  have hfold : fold "sto+" = "STO+" := by decide
  have hlookup : Alias.lookup? standardShortcuts "STO+" = some "STO +" := by decide
  have hphrase : Table.standard.shortcut? (fold "sto+") = some "STO +" := by rw [hfold, standard_shortcut, hlookup]
  have hwords : words "STO +" = ["STO", "+"] := by decide
  rw [hshift, expand_of_shortcut hphrase, hwords]
  rfl

theorem standard_offers_are_accepted_register :
    ∃ r d, resolve Table.standard ["f", "sto+"] = .ok r ∧ r.diagnostic = some d ∧ d.kind = .argumentMissing ∧
      ⟨".0", ""⟩ ∈ d.alternatives ∧
      ∃ r', resolve Table.standard ["STO", "+", ".0"] = .ok r' ∧ ReadsTo r' ["STO", "+", ".0"] := by
  have hcyx : ¬ StartsWithCyx (flatWords addingGroups ++ []) := by
    rintro ⟨hc, -⟩
    exact absurd hc (by decide)
  have hw : Walk Table.standard Table.standard.root ["STO", "+"] addingGroups [] :=
    ⟨rfl, addingGroups_spell, greedy_of_spells addingGroups_spell hcyx, stuck_nil _ _⟩
  have hstatement : resolve Table.standard ["f", "sto+"] = resolveWords Table.standard ["STO", "+"] := by
    rw [resolve_of_statement (by decide), adding_expand]
  have hread := hstatement.trans (hw.resolveWords_eq (.missing (by simp [addingGroups]) rfl rfl))
  have hoffer : (⟨".0", ""⟩ : Alternative) ∈ alternatives (lastNode Table.standard.root addingGroups) := by decide
  exact ⟨_, _, hread, rfl, rfl, hoffer,
    standard_offers_are_accepted ["f", "sto+"] _ _ hread rfl (by simp [addingGroups]) ⟨".0", ""⟩ hoffer⟩

end Keystroke.Statement
