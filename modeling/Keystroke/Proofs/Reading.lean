import Keystroke.Statement.Resolve
import Mathlib.Data.List.Basic

/-! What it means to read a statement as a path of the command tree: its words fall into groups of one or
two, each of which spells an argument of the node before it. The descent finds such a reading, the one that
takes two words wherever it can, and nothing else. -/
namespace Keystroke.Statement

open Keystroke.Command Keystroke.Text

/-- Words that spell an argument of a node, with its token and the node it leads to. -/
structure Group where
  words : List String
  token : String
  node : Node

/-- A group selects an argument: its one or two words, joined by a blank and folded, are a spelling of the
token, and the token leads on to the node of the group. -/
structure Selects (table : Table) (node : Node) (group : Group) : Prop where
  length : group.words.length = 1 ∨ group.words.length = 2
  spelling : table.canonical? (fold (" ".intercalate group.words)) = some group.token
  child : node.child? group.token = some group.node

/-- Groups that spell a path from a node downwards. -/
inductive Spells (table : Table) : Node → List Group → Prop
  | nil (node : Node) : Spells table node []
  | cons {node : Node} {group : Group} {groups : List Group} :
    Selects table node group → Spells table group.node groups → Spells table node (group :: groups)

/-- The words of groups, in order. -/
def flatWords (groups : List Group) : List String :=
  groups.flatMap Group.words

@[simp] theorem flatWords_nil : flatWords [] = [] := rfl

@[simp] theorem flatWords_cons (group : Group) (groups : List Group) :
    flatWords (group :: groups) = group.words ++ flatWords groups := rfl

/-- The node at the end of a path. -/
def lastNode (node : Node) : List Group → Node
  | [] => node
  | group :: groups => lastNode group.node groups

/-- At every step two words were taken whenever the next two select an argument. -/
def Greedy (table : Table) (node : Node) : List Group → List String → Prop
  | [], _ => True
  | group :: groups, rest =>
    (∀ pair, Selects table node pair → pair.words.length = 2 →
      pair.words <+: group.words ++ flatWords groups ++ rest → group.words = pair.words) ∧
    Greedy table group.node groups rest

/-- No group at the front of the words selects an argument. -/
def Stuck (table : Table) (node : Node) (words : List String) : Prop :=
  ∀ group, Selects table node group → ¬ group.words <+: words

/-- A greedy reading of words from a node, as far as it goes. -/
structure Walk (table : Table) (node : Node) (words : List String) (groups : List Group)
    (rest : List String) : Prop where
  split : words = flatWords groups ++ rest
  spells : Spells table node groups
  greedy : Greedy table node groups rest
  stuck : Stuck table (lastNode node groups) rest

/-- A descent with the steps of groups before it. -/
def Descent.after (d : Descent) : List Group → Descent
  | [] => d
  | group :: groups => .cons group.words.length (group.token, group.node) (d.after groups)

theorem Descent.after_node (d : Descent) (groups : List Group) : (d.after groups).node = d.node := by
  induction groups with
  | nil => rfl
  | cons group groups ih => exact ih

theorem Descent.after_path (d : Descent) (groups : List Group) :
    (d.after groups).path = groups.map Group.token ++ d.path := by
  induction groups with
  | nil => rfl
  | cons group groups ih => simp [Descent.after, Descent.cons, ih]

theorem Descent.after_nodes (d : Descent) (groups : List Group) :
    (d.after groups).nodes = groups.map Group.node ++ d.nodes := by
  induction groups with
  | nil => rfl
  | cons group groups ih => simp [Descent.after, Descent.cons, ih]

theorem Descent.after_used (d : Descent) (groups : List Group) :
    (d.after groups).used = (flatWords groups).length + d.used := by
  induction groups with
  | nil => simp [Descent.after]
  | cons group groups ih => simp [Descent.after, Descent.cons, ih, Nat.add_assoc]

/-- What the look-up of a spelling finds is what the spelling selects. -/
theorem argument_eq_some_iff (table : Table) (node : Node) (spelling token : String) (child : Node) :
    argument? table node spelling = some (token, child) ↔
      table.canonical? (fold spelling) = some token ∧ node.child? token = some child := by
  unfold argument?
  cases hc : table.canonical? (fold spelling) with
  | none => simp
  | some t =>
    simp only [Option.map_eq_some_iff, Prod.mk.injEq, Option.some.injEq]
    constructor
    · rintro ⟨n, hn, rfl, rfl⟩
      exact ⟨rfl, hn⟩
    · rintro ⟨rfl, hn⟩
      exact ⟨child, hn, rfl, rfl⟩

theorem argument_none_of_canonical {table : Table} {spelling : String} (node : Node)
    (h : table.canonical? (fold spelling) = none) : argument? table node spelling = none := by
  simp [argument?, h]

theorem selects_iff_argument (table : Table) (node : Node) (group : Group)
    (hl : group.words.length = 1 ∨ group.words.length = 2) :
    Selects table node group ↔
      argument? table node (" ".intercalate group.words) = some (group.token, group.node) := by
  rw [argument_eq_some_iff]
  exact ⟨fun h => ⟨h.spelling, h.child⟩, fun h => ⟨hl, h.1, h.2⟩⟩

theorem argument_none_of_not_selects (table : Table) (node : Node) (words : List String)
    (hl : words.length = 1 ∨ words.length = 2)
    (h : ∀ group, Selects table node group → group.words ≠ words) :
    argument? table node (" ".intercalate words) = none := by
  cases ha : argument? table node (" ".intercalate words) with
  | none => rfl
  | some step =>
    refine absurd rfl (h ⟨words, step.1, step.2⟩ ?_)
    exact (selects_iff_argument table node ⟨words, step.1, step.2⟩ hl).mpr ha

theorem eq_singleton_of_front {words rest : List String} {first : String} (hl : words.length = 1)
    (h : words <+: first :: rest) : words = [first] := by
  obtain ⟨word, rfl⟩ := List.length_eq_one_iff.mp hl
  simpa using h

theorem eq_pair_of_front {words rest : List String} {first second : String} (hl : words.length = 2)
    (h : words <+: first :: second :: rest) : words = [first, second] := by
  obtain ⟨a, b, rfl⟩ := List.length_eq_two.mp hl
  simpa using h

theorem stuck_nil (table : Table) (node : Node) : Stuck table node [] := by
  intro group hs hp
  have hl := hs.length
  rw [List.prefix_nil.mp hp] at hl
  simp at hl

theorem stuck_singleton {table : Table} {node : Node} {word : String}
    (h : argument? table node word = none) : Stuck table node [word] := by
  intro group hs hp
  have hone : group.words.length = 1 := by
    have hle := hp.length_le
    have hl := hs.length
    simp only [List.length_singleton] at hle
    omega
  have ha := (selects_iff_argument table node group hs.length).mp hs
  rw [eq_singleton_of_front hone hp, String.intercalate_singleton, h] at ha
  simp at ha

theorem not_selects_pair {table : Table} {node : Node} {first second : String} {rest : List String}
    (h : argument? table node (first ++ " " ++ second) = none) (pair : Group)
    (hs : Selects table node pair) (hl : pair.words.length = 2) :
    ¬ pair.words <+: first :: second :: rest := by
  intro hp
  have ha := (selects_iff_argument table node pair hs.length).mp hs
  rw [eq_pair_of_front hl hp, String.intercalate_cons_cons, String.intercalate_singleton, h] at ha
  simp at ha

theorem stuck_pair {table : Table} {node : Node} {first second : String} {rest : List String}
    (hpair : argument? table node (first ++ " " ++ second) = none)
    (hone : argument? table node first = none) : Stuck table node (first :: second :: rest) := by
  intro group hs hp
  rcases hs.length with hl | hl
  · have hfirst : group.words <+: [first] := by simp [eq_singleton_of_front hl hp]
    exact stuck_singleton hone group hs hfirst
  · exact not_selects_pair hpair group hs hl hp

/-- The descent is a greedy reading. -/
theorem exists_walk (table : Table) (node : Node) (words : List String) :
    ∃ groups rest, Walk table node words groups rest := by
  -- One case for each way in which the descent goes on or ends.
  fun_induction descend table node words with
  | case1 node => exact ⟨[], [], by simp, .nil node, trivial, stuck_nil table node⟩
  | case2 node word step hstep =>
    have hs : Selects table node ⟨[word], step.1, step.2⟩ :=
      (selects_iff_argument table node _ (by simp)).mpr (by simpa using hstep)
    refine ⟨[⟨[word], step.1, step.2⟩], [], by simp, .cons hs (.nil step.2), ⟨?_, trivial⟩,
      stuck_nil table step.2⟩
    intro pair _ hl hp
    have hle := hp.length_le
    simp [hl] at hle
  | case3 node word hnone => exact ⟨[], [word], by simp, .nil node, trivial, stuck_singleton hnone⟩
  | case4 node first second rest step hstep ih =>
    obtain ⟨groups, rest', hw⟩ := ih
    have hs : Selects table node ⟨[first, second], step.1, step.2⟩ :=
      (selects_iff_argument table node _ (by simp)).mpr (by simpa using hstep)
    refine ⟨⟨[first, second], step.1, step.2⟩ :: groups, rest', by simp [hw.split],
      .cons hs hw.spells, ⟨?_, hw.greedy⟩, hw.stuck⟩
    intro pair _ hl hp
    exact (eq_pair_of_front hl hp).symm
  | case5 node first second rest hpair step hstep ih =>
    obtain ⟨groups, rest', hw⟩ := ih
    have hs : Selects table node ⟨[first], step.1, step.2⟩ :=
      (selects_iff_argument table node _ (by simp)).mpr (by simpa using hstep)
    refine ⟨⟨[first], step.1, step.2⟩ :: groups, rest', by simp [← hw.split], .cons hs hw.spells,
      ⟨?_, hw.greedy⟩, hw.stuck⟩
    intro pair hsel hl hp
    -- The two words at the front select nothing, or the descent would have taken them.
    rw [List.append_assoc, ← hw.split] at hp
    exact absurd hp (not_selects_pair hpair pair hsel hl)
  | case6 node first second rest hpair hone =>
    exact ⟨[], first :: second :: rest, by simp, .nil node, trivial, stuck_pair hpair hone⟩

theorem descend_of_stuck {table : Table} {node : Node} {words : List String}
    (h : Stuck table node words) : descend table node words = { node := node } := by
  have hnone (front : List String) (hl : front.length = 1 ∨ front.length = 2)
      (hp : front <+: words) : argument? table node (" ".intercalate front) = none := by
    apply argument_none_of_not_selects table node front hl
    intro group hs he
    exact h group hs (he ▸ hp)
  match words with
  | [] => rfl
  | [word] =>
    have hone := hnone [word] (by simp) (by simp)
    rw [String.intercalate_singleton] at hone
    simp [descend, hone]
  | first :: second :: rest =>
    have hone := hnone [first] (by simp) (by simp)
    have htwo := hnone [first, second] (by simp) (by simp)
    simp only [String.intercalate_cons_cons, String.intercalate_singleton] at hone htwo
    simp [descend, hone, htwo]

theorem descend_group {table : Table} {node : Node} {group : Group} {tail : List String}
    (hs : Selects table node group)
    (hg : ∀ pair, Selects table node pair → pair.words.length = 2 →
      pair.words <+: group.words ++ tail → group.words = pair.words) :
    descend table node (group.words ++ tail) =
      .cons group.words.length (group.token, group.node) (descend table group.node tail) := by
  have ha := (selects_iff_argument table node group hs.length).mp hs
  rcases hs.length with hl | hl
  · obtain ⟨word, hw⟩ := List.length_eq_one_iff.mp hl
    rw [hw, String.intercalate_singleton] at ha
    cases tail with
    | nil => simp [hw, descend, ha]
    | cons next tail =>
      -- A pair would have to be the group, which has one word only.
      have hnone : argument? table node (word ++ " " ++ next) = none := by
        have := argument_none_of_not_selects table node [word, next] (by simp) (fun pair hp he => by
          have := hg pair hp (by simp [he]) (by simp [hw, he])
          simp [hw, he] at this)
        simpa using this
      simp [hw, descend, hnone, ha]
  · obtain ⟨first, second, hw⟩ := List.length_eq_two.mp hl
    rw [hw, String.intercalate_cons_cons, String.intercalate_singleton] at ha
    simp [hw, descend, ha]

/-- The descent follows every greedy reading, whatever comes after it. -/
theorem descend_of_greedy {table : Table} {node : Node} {groups : List Group} {rest : List String}
    (hs : Spells table node groups) (hg : Greedy table node groups rest) :
    descend table node (flatWords groups ++ rest) =
      (descend table (lastNode node groups) rest).after groups := by
  induction hs with
  | nil node => rfl
  | cons hsel hspells ih =>
    obtain ⟨hpair, hrest⟩ := hg
    rw [flatWords_cons, List.append_assoc, descend_group hsel (by simpa using hpair), ih hrest]
    rfl

theorem Walk.descend_eq {table : Table} {node : Node} {words rest : List String} {groups : List Group}
    (hw : Walk table node words groups rest) :
    descend table node words = ({ node := lastNode node groups } : Descent).after groups := by
  rw [hw.split, descend_of_greedy hw.spells hw.greedy, descend_of_stuck hw.stuck]

theorem Walk.words_eq_rest {table : Table} {node : Node} {words rest : List String}
    (hw : Walk table node words [] rest) : words = rest := by
  simpa using hw.split

theorem Stuck.of_front {table : Table} {node : Node} {words front : List String}
    (h : Stuck table node words) (hp : front <+: words) : Stuck table node front :=
  fun group hs hg => h group hs (hg.trans hp)

theorem Greedy.of_front {table : Table} {node : Node} {groups : List Group} {rest front : List String}
    (h : Greedy table node groups rest) (hp : front <+: rest) : Greedy table node groups front := by
  induction groups generalizing node with
  | nil => trivial
  | cons group groups ih =>
    refine ⟨?_, ih h.2⟩
    intro pair hs hl hpair
    exact h.1 pair hs hl (hpair.trans ((List.prefix_append_right_inj _).mpr hp))

/-- Words cut off behind a reading do not change it. -/
theorem Walk.of_front {table : Table} {node : Node} {words rest front : List String}
    {groups : List Group} (hw : Walk table node words groups rest) (hp : front <+: rest) :
    Walk table node (flatWords groups ++ front) groups front :=
  ⟨rfl, hw.spells, hw.greedy.of_front hp, hw.stuck.of_front hp⟩

theorem Spells.flatWords_ne_nil {table : Table} {node : Node} {groups : List Group}
    (hs : Spells table node groups) (hne : groups ≠ []) : flatWords groups ≠ [] := by
  cases hs with
  | nil => exact absurd rfl hne
  | @cons _ group groups hsel _ =>
    intro he
    have hl := hsel.length
    rw [flatWords_cons, List.append_eq_nil_iff] at he
    simp [he.1] at hl

/-- How the reading of a statement ends, by the groups that a walk from the root found and the words it
left. -/
inductive Outcome (table : Table) (words : List String) (groups : List Group) (rest : List String) :
    Resolution → Prop
  | command : groups ≠ [] → (lastNode table.root groups).isComplete →
    Outcome table words groups rest
      { records := [Record.ofPath table (groups.map Group.token) (groups.map Group.node)]
        rest := rest }
  | literal {word : String} {others : List String} {records : List Record} : groups = [] →
    rest = word :: others → Statement.literal table word = .ok records → records ≠ [] →
    Outcome table words groups rest { records := records, rest := others }
  | expression {word : String} {others : List String} {failure : Constant.Failure} : groups = [] →
    rest = word :: others → Statement.literal table word = .error failure →
    Outcome table words groups rest
      { rest := others
        diagnostic := some
          { kind := .expressionInvalid, token := word, words := words,
            reason := some (.expression failure) } }
  | unknown {word : String} {others : List String} : groups = [] →
    rest = word :: others → Statement.literal table word = .ok [] →
    Outcome table words groups rest
      { rest := others
        diagnostic := some
          { kind := .commandUnknown, token := fold word, words := words,
            alternatives := alternatives table.root
            suggestions := suggestions table (fold word) } }
  | missing : groups ≠ [] → (lastNode table.root groups).isComplete = false → rest = [] →
    Outcome table words groups rest
      { diagnostic := some
          { kind := if groups.length = 1 then .noArgument else .argumentMissing
            path := groups.map Group.token, words := words, used := words.length
            alternatives := alternatives (lastNode table.root groups) } }
  | invalid {word : String} {others : List String} : groups ≠ [] →
    (lastNode table.root groups).isComplete = false → rest = word :: others →
    Outcome table words groups rest
      { rest := others
        diagnostic := some
          { kind := .argumentInvalid, token := fold word, path := groups.map Group.token
            words := words, used := (flatWords groups).length
            alternatives := alternatives (lastNode table.root groups) } }

theorem exists_outcome (table : Table) (words rest : List String) (groups : List Group)
    (hne : groups ≠ [] ∨ rest ≠ []) : ∃ r, Outcome table words groups rest r := by
  by_cases hg : groups = []
  · obtain ⟨word, others, hr⟩ := List.exists_cons_of_ne_nil (hne.resolve_left (not_not.mpr hg))
    cases hl : Statement.literal table word with
    | error failure => exact ⟨_, .expression hg hr hl⟩
    | ok records =>
      cases records with
      | nil => exact ⟨_, .unknown hg hr hl⟩
      | cons record records => exact ⟨_, .literal hg hr hl (by simp)⟩
  · cases hc : (lastNode table.root groups).isComplete with
    | true => exact ⟨_, .command hg hc⟩
    | false =>
      cases rest with
      | nil => exact ⟨_, .missing hg hc rfl⟩
      | cons word others => exact ⟨_, .invalid hg hc rfl⟩

/-- The outcome of the walk from the root is what is read. -/
theorem Walk.resolveWords_eq {table : Table} {words rest : List String} {groups : List Group}
    {r : Resolution} (hw : Walk table table.root words groups rest)
    (ho : Outcome table words groups rest r) : resolveWords table words = .ok r := by
  have hd := hw.descend_eq
  have hdrop : words.drop (flatWords groups).length = rest := by simp [hw.split]
  unfold resolveWords
  simp only [hd, Descent.after_node, Descent.after_path, Descent.after_nodes, Descent.after_used,
    List.append_nil, Nat.add_zero]
  cases ho with
  | command hg hc => simp [hg, hc, hdrop]
  -- Without a group the first word decides, and `words` is the rest.
  | literal hg hr hl hne =>
    subst hg hr
    obtain ⟨record, records, rfl⟩ := List.exists_cons_of_ne_nil hne
    simp [hw.words_eq_rest, hl]
  | expression hg hr hl =>
    subst hg hr
    simp [hw.words_eq_rest, hl]
  | unknown hg hr hl =>
    subst hg hr
    simp [hw.words_eq_rest, hl, diagnose, Descent.after, lastNode]
  -- With groups the diagnosis depends on whether a word is left to blame.
  | missing hg hc hr =>
    have hflat := hw.spells.flatWords_ne_nil hg
    have hlen : (flatWords groups).length = words.length := by simp [hw.split, hr]
    have hpos : words.length ≠ 0 := by simpa [← hlen] using hflat
    have hmax : max words.length 1 = words.length := Nat.max_eq_left (Nat.one_le_iff_ne_zero.mpr hpos)
    by_cases hone : groups.length = 1 <;>
      simp [hc, hlen, hpos, hmax, hone, diagnose, Descent.after_used, Descent.after_path,
        Descent.after_node]
  | @invalid word others hg hc hr =>
    have hflat := hw.spells.flatWords_ne_nil hg
    have hpos : (flatWords groups).length ≠ 0 := by simpa using hflat
    have hlt : ¬ words.length ≤ (flatWords groups).length := by simp [hw.split, hr]
    have hword : words[(flatWords groups).length]? = some word := by simp [hw.split, hr]
    have hothers : words.drop ((flatWords groups).length + 1) = others := by simp [hw.split, hr]
    simp [hc, hpos, hlt, hword, hothers, diagnose, Descent.after_used, Descent.after_path,
      Descent.after_node]

theorem resolve_of_statement {table : Table} {words : List String} (h : dropShift words ≠ []) :
    resolve table words = resolveWords table (table.expand (dropShift words)) := by
  unfold resolve
  split
  · rename_i hnil
    exact absurd hnil h
  · rename_i statement
    rfl

theorem resolveWords_nil (table : Table) : resolveWords table [] = .error .emptyStatement := rfl

/-- Words that are not empty are read, by the walk from the root. -/
theorem exists_walk_outcome (table : Table) {words : List String} (h : words ≠ []) :
    ∃ groups rest r, Walk table table.root words groups rest ∧ Outcome table words groups rest r ∧
      resolveWords table words = .ok r := by
  obtain ⟨groups, rest, hw⟩ := exists_walk table table.root words
  have hsome : groups ≠ [] ∨ rest ≠ [] := by
    by_contra hnone
    push Not at hnone
    exact h (by rw [hw.split, hnone.1, hnone.2]; rfl)
  obtain ⟨r, ho⟩ := exists_outcome table words rest groups hsome
  exact ⟨groups, rest, r, hw, ho, hw.resolveWords_eq ho⟩

/-- What is read from words: nothing from a shift key alone, else the outcome of a walk. -/
theorem resolve_ok_cases {table : Table} {words : List String} {r : Resolution}
    (h : resolve table words = .ok r) :
    r = {} ∨ ∃ groups rest, Walk table table.root (table.expand (dropShift words)) groups rest ∧
      Outcome table (table.expand (dropShift words)) groups rest r := by
  by_cases hd : dropShift words = []
  · left
    simpa [resolve, hd] using h.symm
  · right
    rw [resolve_of_statement hd] at h
    have hne : table.expand (dropShift words) ≠ [] := by
      intro he
      rw [he, resolveWords_nil] at h
      simp at h
    obtain ⟨groups, rest, r', hw, ho, hr⟩ := exists_walk_outcome table hne
    rw [hr, Except.ok.injEq] at h
    exact ⟨groups, rest, hw, h ▸ ho⟩

/-- Only a shortcut that leaves no words cannot be read. -/
theorem resolve_error_iff (table : Table) (words : List String) (fault : Fault) :
    resolve table words = .error fault ↔
      fault = .emptyStatement ∧ dropShift words ≠ [] ∧ table.expand (dropShift words) = [] := by
  by_cases hd : dropShift words = []
  · simp [resolve, hd]
  · rw [resolve_of_statement hd]
    by_cases he : table.expand (dropShift words) = []
    · rw [he, resolveWords_nil]
      simp [hd, eq_comm]
    · obtain ⟨_, _, r, _, _, hr⟩ := exists_walk_outcome table he
      simp [hr, he]

/-- A statement read as a path from the root to a complete node, two words at a time wherever that is
possible. The one instruction has the tokens of the path, the keycode of the shift key of its command, if
there is one, before those of its nodes, and the annotations of the nodes. -/
structure PathReading (table : Table) (statement : List String) (r : Resolution) (first : Group)
    (others : List Group) (record : Record) : Prop where
  split : statement = flatWords (first :: others) ++ r.rest
  spells : Spells table table.root (first :: others)
  complete : (lastNode table.root (first :: others)).isComplete
  greedy : Greedy table table.root (first :: others) r.rest
  records : r.records = [record]
  path : record.path = (first :: others).map Group.token
  keycodes : record.keycodes = (table.shift? first.token).toList.map table.shiftKeycode ++
    (first :: others).map (·.node.keycode)
  comment : record.comment =
    " ".intercalate (((first :: others).map (·.node.comment)).filter (· ≠ ""))
  remarks : record.remarks = ""

/-- Whenever instructions are read, they come from a path of the command tree; or else no command stands at
the front of the statement and its first word is a literal. -/
theorem resolve_success_reads (table : Table) (words : List String) (r : Resolution)
    (h : resolve table words = .ok r) (hd : r.diagnostic = none) (hr : r.records ≠ []) :
    (∃ first others record,
      PathReading table (table.expand (dropShift words)) r first others record) ∨
    ∃ word, table.expand (dropShift words) = word :: r.rest ∧
      Stuck table table.root (word :: r.rest) ∧ literal table word = .ok r.records := by
  have hstatement : dropShift words ≠ [] := by
    intro hnil
    simp only [resolve, hnil, Except.ok.injEq] at h
    exact hr (by rw [← h])
  rw [resolve_of_statement hstatement] at h
  obtain ⟨groups, rest, hw⟩ := exists_walk table table.root (table.expand (dropShift words))
  by_cases hempty : groups = [] ∧ rest = []
  · obtain ⟨rfl, rfl⟩ := hempty
    rw [show table.expand (dropShift words) = [] from hw.split] at h
    simp [resolveWords, descend] at h
  · obtain ⟨r', ho⟩ := exists_outcome table (table.expand (dropShift words)) rest groups
      (by tauto)
    rw [hw.resolveWords_eq ho, Except.ok.injEq] at h
    subst h
    cases ho with
    | command hg hc =>
      obtain ⟨first, others, rfl⟩ := List.exists_cons_of_ne_nil hg
      exact Or.inl ⟨first, others, _, hw.split, hw.spells, hc, hw.greedy, rfl, rfl,
        by simp [Record.ofPath], by simp [Record.ofPath, Function.comp_def], rfl⟩
    | literal hg hrest hl hne =>
      subst hg hrest
      exact Or.inr ⟨_, hw.split, hw.stuck, hl⟩
    | expression => simp at hd
    | unknown => simp at hd
    | missing => simp at hd
    | invalid => simp at hd

/-- A command set with a single path. -/
def jumpTable : Table :=
  Table.build
    (Node.branch "" ""
      [("f", Node.leaf "42"), ("GTO", Node.branch "22" "jump" [("A", Node.leaf "11")])])
    [⟨"go to", "GTO"⟩, ⟨"a", "A"⟩] [] [("GTO", Shift.f)]

/-- The instruction of that path with a word behind it. -/
def jumpResolution : Resolution where
  records := [⟨["GTO", "A"], ["42", "22", "11"], "f", "jump", ""⟩]
  rest := ["now"]

set_option maxRecDepth 20000 in
theorem resolve_success_reads_jump :
    resolve jumpTable ["g", "go", "TO", "a", "now"] = .ok jumpResolution ∧
    ∃ first others record,
      PathReading jumpTable ["go", "TO", "a", "now"] jumpResolution first others record := by
  have h : resolve jumpTable ["g", "go", "TO", "a", "now"] = .ok jumpResolution := rfl
  refine ⟨h, ?_⟩
  rcases resolve_success_reads jumpTable _ _ h rfl (by simp [jumpResolution]) with hp | ⟨_, hw, _⟩
  · exact hp
  · have he : jumpTable.expand (dropShift ["g", "go", "TO", "a", "now"]) =
      ["go", "TO", "a", "now"] := rfl
    rw [he] at hw
    simp [jumpResolution] at hw

end Keystroke.Statement
