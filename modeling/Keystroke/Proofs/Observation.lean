import Keystroke.Dump.Table
import Keystroke.Proofs.Entries

/-! What reading and listing can observe of a command set: the arguments below the root, the spellings, the
shortcuts and the names of the shift keys of commands. All of it stands in the plain lists that are written out,
so command sets with the same lists are read and listed alike. -/
namespace Keystroke.Command

/-- Command sets that agree in all that can be observed. The root's own keycode and annotation may differ, and so
may the shift keys of words that are no commands. -/
structure Table.Alike (t u : Table) : Prop where
  args : t.root.args = u.root.args
  aliases : t.aliases = u.aliases
  shortcuts : t.shortcuts = u.shortcuts
  shift : ∀ token, (t.root.child? token).isSome = true →
    (t.shift? token).map Shift.name = (u.shift? token).map Shift.name

theorem Shift.name_ne_empty (shift : Shift) : shift.name ≠ "" := by
  cases shift with
  | f => decide
  | g => decide
  | unlisted code =>
    intro h
    have hlist := congrArg String.toList h
    simp [Shift.name] at hlist

/-- No key and a key are told apart by the name that is written for them. -/
theorem Shift.map_name_eq {shift shift' : Option Shift}
    (h : (shift.map Shift.name).getD "" = (shift'.map Shift.name).getD "") :
    shift.map Shift.name = shift'.map Shift.name := by
  cases shift with
  | none =>
    cases shift' with
    | none => rfl
    | some key => exact absurd h.symm key.name_ne_empty
  | some key =>
    cases shift' with
    | none => exact absurd h key.name_ne_empty
    | some key' => exact congrArg some h

theorem Node.child_eq_of_args {n m : Node} (h : n.args = m.args) (token : String) :
    n.child? token = m.child? token := by
  unfold Node.child?
  rw [h]

namespace Table.Alike

variable {t u : Table} (h : t.Alike u)
include h

theorem child_eq (token : String) : t.root.child? token = u.root.child? token :=
  Node.child_eq_of_args h.args token

theorem canonical_eq (spelling : String) : t.canonical? spelling = u.canonical? spelling := by
  unfold Table.canonical?
  rw [h.aliases]

theorem shortcut_eq (spelling : String) : t.shortcut? spelling = u.shortcut? spelling := by
  unfold Table.shortcut?
  rw [h.shortcuts]

theorem expand?_eq (words : List String) : t.expand? words = u.expand? words := by
  unfold Table.expand?
  simp only [h.shortcut_eq]

theorem expand_eq (words : List String) : t.expand words = u.expand words := by
  unfold Table.expand
  rw [h.expand?_eq]

/-- The code of a shift key is found by its name. -/
theorem shiftKeycode_eq {shift shift' : Shift} (hname : shift.name = shift'.name) :
    t.shiftKeycode shift = u.shiftKeycode shift' := by
  unfold Table.shiftKeycode
  rw [hname, h.child_eq]

theorem symm : u.Alike t where
  args := h.args.symm
  aliases := h.aliases.symm
  shortcuts := h.shortcuts.symm
  shift := fun token hc => (h.shift token (by rw [h.child_eq]; exact hc)).symm

end Table.Alike

end Keystroke.Command

namespace Keystroke.Statement

open Keystroke.Command Keystroke.Text

section Alike

variable {t u : Table}

theorem key_eq (h : t.Alike u) (token : String) : Record.key t token = Record.key u token := by
  unfold Record.key
  rw [h.child_eq]

/-- The shift key of a path shows by its name and its code alone. -/
theorem ofPath_eq (h : t.Alike u) {path : List String} (nodes : List Node)
    (hpath : ∀ token, path.head? = some token → (t.root.child? token).isSome = true) :
    Record.ofPath t path nodes = Record.ofPath u path nodes := by
  have hname : (path.head?.bind t.shift?).map Shift.name = (path.head?.bind u.shift?).map Shift.name := by
    cases hp : path.head? with
    | none => rfl
    | some token => exact h.shift token (hpath token hp)
  have hcode : (path.head?.bind t.shift?).toList.map t.shiftKeycode =
      (path.head?.bind u.shift?).toList.map u.shiftKeycode := by
    -- Keys with one name may differ in their codes, but a key's code is looked up by the name.
    generalize path.head?.bind t.shift? = shift at hname
    generalize path.head?.bind u.shift? = shift' at hname
    cases shift with
    | none =>
      cases shift' with
      | none => rfl
      | some shift' => simp at hname
    | some shift =>
      cases shift' with
      | none => simp at hname
      | some shift' =>
        have hn : shift.name = shift'.name := by simpa using hname
        simp [h.shiftKeycode_eq hn]
  unfold Record.ofPath
  rw [hname, hcode]

theorem literal_eq (h : t.Alike u) (word : String) : literal t word = literal u word := by
  have hkeys (n : Numeral) : n.keys t = n.keys u := by
    unfold Numeral.keys
    apply List.map_congr_left
    intro token _
    exact key_eq h token
  unfold literal
  simp only [hkeys]

theorem suggestions_eq (h : t.Alike u) (word : String) : suggestions t word = suggestions u word := by
  unfold suggestions ranked
  simp only [h.aliases, h.child_eq]

theorem alternatives_eq {n m : Node} (h : n.args = m.args) : alternatives n = alternatives m := by
  unfold alternatives
  rw [h]

theorem selects_of_alike (h : t.Alike u) {n m : Node} (hargs : n.args = m.args) {group : Group}
    (hs : Selects t n group) : Selects u m group where
  length := hs.length
  spelling := h.canonical_eq _ ▸ hs.spelling
  child := Node.child_eq_of_args hargs group.token ▸ hs.child

theorem spells_of_alike (h : t.Alike u) {n m : Node} (hargs : n.args = m.args) {groups : List Group}
    (hs : Spells t n groups) : Spells u m groups := by
  induction hs generalizing m with
  | nil => exact .nil m
  | cons hsel _ ih => exact .cons (selects_of_alike h hargs hsel) (ih rfl)

theorem greedy_of_alike (h : t.Alike u) {n m : Node} (hargs : n.args = m.args) {groups : List Group}
    {rest : List String} (hg : Greedy t n groups rest) : Greedy u m groups rest := by
  induction groups generalizing n m with
  | nil => trivial
  | cons group groups ih =>
    refine ⟨?_, ih rfl hg.2⟩
    intro pair hs
    exact hg.1 pair (selects_of_alike h.symm hargs.symm hs)

theorem stuck_of_alike (h : t.Alike u) {n m : Node} (hargs : n.args = m.args) {words : List String}
    (hs : Stuck t n words) : Stuck u m words := by
  intro group hsel
  exact hs group (selects_of_alike h.symm hargs.symm hsel)

theorem lastNode_args {n m : Node} (hargs : n.args = m.args) (groups : List Group) :
    (lastNode n groups).args = (lastNode m groups).args := by
  cases groups with
  | nil => exact hargs
  | cons group groups => rfl

theorem walk_of_alike (h : t.Alike u) {words rest : List String} {groups : List Group}
    (hw : Walk t t.root words groups rest) : Walk u u.root words groups rest where
  split := hw.split
  spells := spells_of_alike h h.args hw.spells
  greedy := greedy_of_alike h h.args hw.greedy
  stuck := stuck_of_alike h (lastNode_args h.args groups) hw.stuck

theorem isComplete_of_args {n m : Node} (hargs : n.args = m.args) : n.isComplete = m.isComplete := by
  unfold Node.isComplete
  rw [hargs]

/-- The same walk has the same outcome. -/
theorem outcome_of_alike (h : t.Alike u) {words rest : List String} {groups : List Group}
    {r : Resolution} (hs : Spells t t.root groups) (ho : Outcome t words groups rest r) :
    Outcome u words groups rest r := by
  have hlast : (lastNode t.root groups).args = (lastNode u.root groups).args :=
    lastNode_args h.args groups
  have hcomplete := isComplete_of_args hlast
  cases ho with
  | command hg hc =>
    have hrecord : Record.ofPath t (groups.map Group.token) (groups.map Group.node) =
        Record.ofPath u (groups.map Group.token) (groups.map Group.node) := by
      apply ofPath_eq h
      intro token htoken
      -- The first token of the path is a command.
      cases hs with
      | nil => simp at htoken
      | cons hsel _ =>
        obtain rfl : _ = token := by simpa using htoken
        simp [hsel.child]
    rw [hrecord]
    exact .command hg (hcomplete ▸ hc)
  | literal hg hr hl hne => exact .literal hg hr (literal_eq h _ ▸ hl) hne
  | expression hg hr hl => exact .expression hg hr (literal_eq h _ ▸ hl)
  | unknown hg hr hl =>
    rw [alternatives_eq h.args, suggestions_eq h]
    exact .unknown hg hr (literal_eq h _ ▸ hl)
  | missing hg hc hr =>
    rw [alternatives_eq hlast]
    exact .missing hg (hcomplete ▸ hc) hr
  | invalid hg hc hr =>
    rw [alternatives_eq hlast]
    exact .invalid hg (hcomplete ▸ hc) hr

theorem resolve_eq_of_alike (h : t.Alike u) (words : List String) : resolve t words = resolve u words := by
  by_cases hd : dropShift words = []
  · simp [resolve, hd]
  · rw [resolve_of_statement hd, resolve_of_statement hd, h.expand_eq]
    by_cases he : u.expand (dropShift words) = []
    · rw [he, resolveWords_nil, resolveWords_nil]
    · obtain ⟨groups, rest, r, hw, ho, hr⟩ := exists_walk_outcome t he
      rw [hr, (walk_of_alike h hw).resolveWords_eq (outcome_of_alike h hw.spells ho)]

end Alike

end Keystroke.Statement

namespace Keystroke.Listing

open Keystroke.Command Keystroke.Statement Keystroke.Text

/-- The same converter for another command set. -/
def Converter.withTable (conv : Converter) (u : Table) : Converter :=
  { conv with table := u }

section Alike

variable {conv : Converter} {u : Table}

theorem ofRecords_eq {t : Table} (h : t.Alike u) (options : Options) (records : List Record) :
    Entry.ofRecords options t records = Entry.ofRecords options u records := by
  have hcode : showKeycode options t = showKeycode options u := by
    funext keycode
    unfold showKeycode
    rw [h.child_eq]
  have hrecord : Entry.ofRecord options t = Entry.ofRecord options u := by
    funext record
    unfold Entry.ofRecord
    rw [showKeycodes_eq_mapM, showKeycodes_eq_mapM, hcode]
  rw [ofRecords_eq_mapM, ofRecords_eq_mapM, hrecord]

theorem withRemarks_withTable (rest : List String) (records : List Record) :
    (conv.withTable u).withRemarks rest records = conv.withRemarks rest records := by
  fun_induction Converter.withRemarks conv rest records with
  | case1 => rfl
  | case2 record => rfl
  | case3 record records hne ih =>
    rw [Converter.withRemarks, ih]
    exact hne

theorem entries_withTable (h : conv.table.Alike u) (r : Resolution) :
    (conv.withTable u).entries r = conv.entries r := by
  unfold Converter.entries
  rw [withRemarks_withTable]
  cases r.diagnostic with
  | some d => rfl
  | none => exact (ofRecords_eq h conv.options _).symm

theorem shortcutLog_withTable (h : conv.table.Alike u) (words : List String) :
    (conv.withTable u).shortcutLog words = conv.shortcutLog words := by
  unfold Converter.shortcutLog
  rw [h.expand?_eq]
  rfl

/-- Each statement of a line is read, listed and logged alike, so the next one starts at the same word. -/
theorem lineSteps_withTable (h : conv.table.Alike u) (line fuel : Nat) (words : List String) :
    (conv.withTable u).lineSteps line fuel words = conv.lineSteps line fuel words := by
  induction fuel generalizing words with
  | zero => rfl
  | succ fuel ih =>
    cases words with
    | nil => rfl
    | cons word others =>
      have hread : resolve (conv.withTable u).table (word :: others) =
          resolve conv.table (word :: others) := (resolve_eq_of_alike h _).symm
      unfold Converter.lineSteps
      dsimp only
      rw [hread]
      cases resolve conv.table (word :: others) with
      | error fault =>
        dsimp only
        rw [shortcutLog_withTable h]
      | ok r =>
        dsimp only
        rw [shortcutLog_withTable h, entries_withTable h, ih]
        rfl

theorem stepsFrom_withTable (h : conv.table.Alike u) (line : Nat) (texts : List String) :
    (conv.withTable u).stepsFrom line texts = conv.stepsFrom line texts := by
  induction texts generalizing line with
  | nil => rfl
  | cons text texts ih =>
    rw [Converter.stepsFrom, Converter.stepsFrom, lineSteps_withTable h, ih]

theorem convert_withTable (h : conv.table.Alike u) (text : String) :
    (conv.withTable u).convert text = conv.convert text := by
  unfold Converter.convert
  rw [stepsFrom_withTable h]

end Alike

end Keystroke.Listing

namespace Keystroke.Dump

open Keystroke.Command Keystroke.Statement Keystroke.Listing

mutual

/-- An entry tells the token and the whole node it stands for. -/
theorem entryOf_injective {token token' : String} : ∀ {n m : Node},
    entryOf token n = entryOf token' m → token = token' ∧ n = m
  | .mk keycode comment args, .mk keycode' comment' args', h => by
    unfold entryOf at h
    obtain ⟨htoken, hkeycode, hcomment, -, hargs⟩ := Entry.mk.inj h
    exact ⟨htoken, by rw [hkeycode, hcomment, entriesOf_injective hargs]⟩

theorem entriesOf_injective : ∀ {args args' : List (String × Node)},
    entriesOf args = entriesOf args' → args = args'
  | [], [], _ => rfl
  | [], (token, node) :: rest, h => by simp [entriesOf] at h
  | (token, node) :: rest, [], h => by simp [entriesOf] at h
  | (token, node) :: rest, (token', node') :: rest', h => by
    unfold entriesOf at h
    obtain ⟨hfirst, hrest⟩ := List.cons.inj h
    obtain ⟨htoken, hnode⟩ := entryOf_injective hfirst
    rw [htoken, hnode, entriesOf_injective hrest]

end

theorem entryOf_token (token : String) (node : Node) : (entryOf token node).token = token := by
  cases node
  rfl

theorem entriesOf_eq_map (args : List (String × Node)) :
    entriesOf args = args.map fun arg => entryOf arg.1 arg.2 := by
  induction args with
  | nil => rfl
  | cons arg args ih => rw [entriesOf, ih, List.map_cons]

/-- Entries as they are before the shift keys are filled in. -/
theorem map_unshifted (t : Table) :
    ((ofTable t).commands.map fun entry => { entry with shift := "" }) = entriesOf t.root.args := by
  unfold ofTable
  rw [List.map_map, entriesOf_eq_map, List.map_map]
  apply List.map_congr_left
  rintro ⟨token, node⟩ _
  cases node
  rfl

/-- The plain lists of a command set hold all that can be observed of it. -/
theorem alike_of_ofTable_eq {t u : Table} (h : ofTable t = ofTable u) : t.Alike u := by
  have hargs : t.root.args = u.root.args := by
    apply entriesOf_injective
    rw [← map_unshifted t, ← map_unshifted u, h]
  refine ⟨hargs, congrArg Snapshot.aliases h, congrArg Snapshot.shortcuts h, ?_⟩
  intro token hchild
  obtain ⟨node, hnode⟩ := Option.isSome_iff_exists.mp hchild
  have hmem : entryOf token node ∈ entriesOf t.root.args := by
    rw [entriesOf_eq_map]
    exact List.mem_map_of_mem (Text.mem_of_lookup hnode)
  -- The commands are the same, so the names written beside them can be compared one by one.
  have hcommands := congrArg Snapshot.commands h
  simp only [ofTable, ← hargs] at hcommands
  have hentry := List.map_inj_left.mp hcommands _ hmem
  have hname := congrArg Entry.shift hentry
  simp only [entryOf_token] at hname
  exact Shift.map_name_eq hname

/-- Command sets that are written out as the same lists are read and listed alike: every text has the same listing
or fault under all options, and the same log, and every list of words gives the same instructions, diagnostic and
rest. -/
theorem snapshot_determines_conversion (t u : Table) (h : ofTable t = ofTable u) :
    (∀ (options : Options) (verbose : Bool) (text : String),
      (Converter.mk t options verbose).convert text = (Converter.mk u options verbose).convert text) ∧
    ∀ words : List String, resolve t words = resolve u words := by
  have halike := alike_of_ofTable_eq h
  constructor
  · intro options verbose text
    have hconv : (Converter.mk t options verbose).table.Alike u := halike
    exact (convert_withTable hconv text).symm
  · intro words
    exact resolve_eq_of_alike halike words

/-- The command set with a single path, declared with repetitions, a root that has a code and a shift key for a word
that is no command. -/
def jumpTwin : Table :=
  Table.build
    (Node.branch "00" "keys"
      [("f", Node.leaf "43"), ("GTO", Node.branch "22" "jump" [("A", Node.leaf "11")]),
        ("f", Node.leaf "42")])
    [⟨"Go To", "GTO"⟩, ⟨"A", "A"⟩, ⟨"go to", "f"⟩] [] [("GTO", Shift.f), ("A", Shift.ofCode 7)]

set_option maxRecDepth 20000 in
theorem snapshot_determines_conversion_jump :
    ofTable jumpTwin = ofTable jumpTable ∧ jumpTwin.shift? "A" ≠ jumpTable.shift? "A" ∧
    ((Converter.mk jumpTwin {} false).convert "go to a b\n12").listing =
      ((Converter.mk jumpTable {} false).convert "go to a b\n12").listing ∧
    resolve jumpTwin ["g", "go", "TO", "a", "now"] = .ok jumpResolution := by
  have haliases : jumpTwin.aliases = [⟨"GO TO", "GTO"⟩, ⟨"A", "A"⟩] := by decide
  have haliases' : jumpTable.aliases = [⟨"GO TO", "GTO"⟩, ⟨"A", "A"⟩] := by decide
  have h : ofTable jumpTwin = ofTable jumpTable := by
    rw [ofTable, ofTable, Snapshot.mk.injEq, haliases, haliases']
    exact ⟨rfl, rfl, rfl⟩
  obtain ⟨hconvert, hresolve⟩ := snapshot_determines_conversion jumpTwin jumpTable h
  refine ⟨h, by decide, ?_, ?_⟩
  · rw [hconvert {} false "go to a b\n12"]
  · rw [hresolve]
    rfl

end Keystroke.Dump
