import Keystroke.Dump.Table
import Keystroke.Proofs.CborReading

/-! A command set that was written out as CBOR can be read back whole. -/
namespace Keystroke.Dump

open Keystroke.Command

namespace Cbor

def text? : Cbor → Option String
  | .text value => some value
  | _ => none

/-- The items of a list; null is the empty list. -/
def items? : Cbor → Option (List Cbor)
  | .null => some []
  | .array items => some items
  | _ => none

def textAt? (members : List (String × Cbor)) (name : String) : Option String :=
  (members.lookup name).bind text?

/-- The text under a name that may be left out. -/
def optionalAt? (members : List (String × Cbor)) (name : String) : Option String :=
  ((members.lookup name).map text?).getD (some "")

def itemsAt? (members : List (String × Cbor)) (name : String) : Option (List Cbor) :=
  (members.lookup name).bind items?

theorem items_ofList (items : List Cbor) : (ofList items).items? = some items := by
  cases items <;> rfl

end Cbor

mutual

/-- The entry of a map with its members in any order. -/
def Entry.ofCbor? : Cbor → Option Entry
  | .map members => do
    let token ← Cbor.textAt? members "token"
    let keycode ← Cbor.textAt? members "keycode"
    let comment ← Cbor.optionalAt? members "comment"
    let shift ← Cbor.optionalAt? members "prefix"
    let args ← argsOfCbor? members
    return ⟨token, keycode, comment, shift, args⟩
  | _ => none

/-- The arguments among the members, which may be left out. -/
def argsOfCbor? : List (String × Cbor) → Option (List Entry)
  | [] => some []
  | (name, value) :: rest => if name = "args" then listOfCbor? value else argsOfCbor? rest

/-- The entries of a list; null is the empty list. -/
def listOfCbor? : Cbor → Option (List Entry)
  | .null => some []
  | .array items => entriesOfCbor? items
  | _ => none

def entriesOfCbor? : List Cbor → Option (List Entry)
  | [] => some []
  | item :: rest => do
    let entry ← Entry.ofCbor? item
    let entries ← entriesOfCbor? rest
    return entry :: entries

end

def aliasOfCbor? : Cbor → Option Alias
  | .map members => do
    let spelling ← Cbor.textAt? members "spelling"
    let token ← Cbor.textAt? members "token"
    return ⟨spelling, token⟩
  | _ => none

def Snapshot.ofCbor? : Cbor → Option Snapshot
  | .map members => do
    let commands ← (members.lookup "commands").bind listOfCbor?
    let aliases ← (← Cbor.itemsAt? members "aliases").mapM aliasOfCbor?
    let shortcuts ← (← Cbor.itemsAt? members "shortcuts").mapM aliasOfCbor?
    return ⟨commands, aliases, shortcuts⟩
  | _ => none

/-- The command set that bytes hold. -/
def Snapshot.ofBytes? (bs : List UInt8) : Option Snapshot :=
  (Cbor.read? bs).bind Snapshot.ofCbor?

/-- A member that is left out if its text is empty. -/
def optionalText (key text : String) : List (String × Cbor) :=
  if text = "" then [] else [(key, .text text)]

section Optional

variable {key name text : String} {rest : List (String × Cbor)}

theorem lookup_optionalText_ne (h : name ≠ key) : (optionalText key text ++ rest).lookup name = rest.lookup name := by
  unfold optionalText
  split_ifs
  · rfl
  · rw [List.singleton_append, List.lookup_cons, beq_false_of_ne h]

theorem optionalAt_optionalText (h : rest.lookup key = none) :
    Cbor.optionalAt? (optionalText key text ++ rest) key = some text := by
  unfold optionalText Cbor.optionalAt?
  split_ifs with htext
  · rw [List.nil_append, h, htext]
    rfl
  · rw [List.singleton_append, List.lookup_cons_self]
    rfl

theorem argsOfCbor_optionalText (h : key ≠ "args") :
    argsOfCbor? (optionalText key text ++ rest) = argsOfCbor? rest := by
  unfold optionalText
  split_ifs
  · rfl
  · rw [List.singleton_append, argsOfCbor?, if_neg h]

end Optional

/-- An entry is read whichever of its optional members are left out. -/
theorem Entry.ofCbor_members (token keycode comment shift : String) {args : List Entry}
    {last : List (String × Cbor)} (hargs : argsOfCbor? last = some args)
    (hlast : ∀ name ≠ "args", last.lookup name = none) :
    Entry.ofCbor? (.map ([("token", .text token), ("keycode", .text keycode)] ++
      optionalText "comment" comment ++ optionalText "prefix" shift ++ last)) =
      some ⟨token, keycode, comment, shift, args⟩ := by
  have hcomment : Cbor.optionalAt? (optionalText "comment" comment ++ (optionalText "prefix" shift ++ last)) "comment" =
      some comment := by
    apply optionalAt_optionalText
    rw [lookup_optionalText_ne (by decide), hlast _ (by decide)]
  have hshift : Cbor.optionalAt? (optionalText "comment" comment ++ (optionalText "prefix" shift ++ last)) "prefix" =
      some shift := by
    unfold Cbor.optionalAt?
    rw [lookup_optionalText_ne (by decide)]
    exact optionalAt_optionalText (hlast _ (by decide))
  have hall : argsOfCbor? (optionalText "comment" comment ++ (optionalText "prefix" shift ++ last)) = some args := by
    rw [argsOfCbor_optionalText (by decide), argsOfCbor_optionalText (by decide), hargs]
  rw [List.append_assoc, List.append_assoc]
  generalize optionalText "comment" comment ++ (optionalText "prefix" shift ++ last) = others at hcomment hshift hall
  -- The names of the two required members differ from all others, so they hide none of them.
  have hread : Entry.ofCbor? (.map ([("token", .text token), ("keycode", .text keycode)] ++ others)) =
      (Cbor.optionalAt? others "comment").bind fun comment =>
        (Cbor.optionalAt? others "prefix").bind fun shift =>
          (argsOfCbor? others).bind fun args => some ⟨token, keycode, comment, shift, args⟩ := rfl
  rw [hread, hcomment, hshift, hall]
  rfl

mutual

theorem Entry.ofCbor_toCbor : (entry : Entry) → Entry.ofCbor? entry.toCbor = some entry
  | ⟨token, keycode, comment, shift, args⟩ => by
    have hentries := entriesOfCbor_toCbor args
    rw [Entry.toCbor]
    apply Entry.ofCbor_members
    · cases args with
      | nil => rfl
      | cons arg rest => exact hentries
    · intro name hname
      cases args with
      | nil => rfl
      | cons arg rest => simp [List.lookup_cons, beq_false_of_ne hname]

theorem entriesOfCbor_toCbor : (entries : List Entry) → entriesOfCbor? (entriesToCbor entries) = some entries
  | [] => rfl
  | entry :: rest => by
    rw [entriesToCbor, entriesOfCbor?, Entry.ofCbor_toCbor entry, entriesOfCbor_toCbor rest]
    rfl

end

theorem aliasesOfCbor_toCbor (aliases : List Alias) : (aliases.map aliasToCbor).mapM aliasOfCbor? = some aliases := by
  induction aliases with
  | nil => rfl
  | cons a rest ih =>
    rw [List.map_cons, List.mapM_cons, ih]
    rfl

theorem Snapshot.ofCbor_toCbor (snapshot : Snapshot) : Snapshot.ofCbor? snapshot.toCbor = some snapshot := by
  have hcommands : listOfCbor? (.ofList (entriesToCbor snapshot.commands)) = some snapshot.commands := by
    cases snapshot.commands with
    | nil => rfl
    | cons entry rest => exact entriesOfCbor_toCbor (entry :: rest)
  have hread : Snapshot.ofCbor? snapshot.toCbor =
      (listOfCbor? (.ofList (entriesToCbor snapshot.commands))).bind fun commands =>
        ((Cbor.ofList (snapshot.aliases.map aliasToCbor)).items?).bind fun aliases =>
          (aliases.mapM aliasOfCbor?).bind fun aliases =>
            ((Cbor.ofList (snapshot.shortcuts.map aliasToCbor)).items?).bind fun shortcuts =>
              (shortcuts.mapM aliasOfCbor?).bind fun shortcuts => some ⟨commands, aliases, shortcuts⟩ := rfl
  rw [hread, hcommands, Cbor.items_ofList, Cbor.items_ofList]
  simp only [Option.bind_some, aliasesOfCbor_toCbor]

section Lengths

/-- An entry with texts and lists of lengths that fit into eight bytes, at every depth. -/
inductive Entry.Fits : Entry → Prop
  | mk {entry : Entry} : entry.token.utf8ByteSize < 2 ^ 64 → entry.keycode.utf8ByteSize < 2 ^ 64 →
    entry.comment.utf8ByteSize < 2 ^ 64 → entry.shift.utf8ByteSize < 2 ^ 64 → entry.args.length < 2 ^ 64 →
    (∀ arg ∈ entry.args, arg.Fits) → Fits entry

structure Snapshot.Fits (snapshot : Snapshot) : Prop where
  commands : snapshot.commands.length < 2 ^ 64
  aliases : snapshot.aliases.length < 2 ^ 64
  shortcuts : snapshot.shortcuts.length < 2 ^ 64
  entries : ∀ entry ∈ snapshot.commands, entry.Fits
  spellings : ∀ a ∈ snapshot.aliases ++ snapshot.shortcuts,
    a.spelling.utf8ByteSize < 2 ^ 64 ∧ a.token.utf8ByteSize < 2 ^ 64

theorem Cbor.Fits.ofList {items : List Cbor} (hlength : items.length < 2 ^ 64) (h : ∀ item ∈ items, item.Fits) :
    (Cbor.ofList items).Fits := by
  unfold Cbor.ofList
  split_ifs
  · exact .null
  · exact .array hlength h

theorem Cbor.Fits.ofMembers {members : List (String × Cbor)} (hlength : members.length < 2 ^ 64)
    (h : ∀ member ∈ members, member.1.utf8ByteSize < 2 ^ 64 ∧ member.2.Fits) : (Cbor.map members).Fits :=
  .map hlength (fun member hmember => (h member hmember).1) fun member hmember => (h member hmember).2

theorem Cbor.Fits.sublist {members all : List (String × Cbor)} (h : (Cbor.map all).Fits) (hsub : members.Sublist all) :
    (Cbor.map members).Fits := by
  cases h with
  | map hlength hnames hvalues =>
    have hmem := hsub.subset
    exact .map (Nat.lt_of_le_of_lt hsub.length_le hlength) (fun m hm => hnames m (hmem hm))
      fun m hm => hvalues m (hmem hm)

theorem optional_sublist {α : Type} (p : Prop) [Decidable p] (a : α) : (if p then [] else [a]).Sublist [a] := by
  split_ifs
  · exact List.nil_sublist _
  · exact List.Sublist.refl _

theorem entriesToCbor_eq (entries : List Entry) : entriesToCbor entries = entries.map Entry.toCbor := by
  induction entries with
  | nil => rfl
  | cons entry rest ih => rw [entriesToCbor, List.map_cons, ih]

theorem Entry.fits_toCbor {entry : Entry} (h : entry.Fits) : entry.toCbor.Fits := by
  induction h with
  | @mk entry htoken hkeycode hcomment hshift hlength _ ih =>
    obtain ⟨token, keycode, comment, shift, args⟩ := entry
    have hargs : (Cbor.array (entriesToCbor args)).Fits := by
      rw [entriesToCbor_eq]
      apply Cbor.Fits.array
      · rwa [List.length_map]
      · intro item hitem
        obtain ⟨arg, harg, rfl⟩ := List.mem_map.mp hitem
        exact ih arg harg
    have hall : (Cbor.map ([("token", .text token), ("keycode", .text keycode)] ++ [("comment", .text comment)] ++
        [("prefix", .text shift)] ++ [("args", .array (entriesToCbor args))])).Fits := by
      apply Cbor.Fits.ofMembers
      · simp
      · simp only [List.cons_append, List.nil_append, List.forall_mem_cons, List.not_mem_nil, false_implies,
          implies_true, and_true]
        exact ⟨⟨by decide, .text htoken⟩, ⟨by decide, .text hkeycode⟩, ⟨by decide, .text hcomment⟩,
          ⟨by decide, .text hshift⟩, by decide, hargs⟩
    -- Leaving members out makes no length longer.
    apply hall.sublist
    exact (((List.Sublist.refl _).append (optional_sublist _ _)).append (optional_sublist _ _)).append
      (optional_sublist _ _)

theorem Snapshot.fits_toCbor {snapshot : Snapshot} (h : snapshot.Fits) : snapshot.toCbor.Fits := by
  have haliases (aliases : List Alias) (hlength : aliases.length < 2 ^ 64)
      (hsub : aliases ⊆ snapshot.aliases ++ snapshot.shortcuts) : (Cbor.ofList (aliases.map aliasToCbor)).Fits := by
    apply Cbor.Fits.ofList
    · rwa [List.length_map]
    · intro item hitem
      obtain ⟨a, ha, rfl⟩ := List.mem_map.mp hitem
      obtain ⟨hspelling, htoken⟩ := h.spellings a (hsub ha)
      apply Cbor.Fits.ofMembers
      · simp
      · simp only [List.forall_mem_cons, List.not_mem_nil, false_implies, implies_true, and_true]
        exact ⟨⟨by decide, .text hspelling⟩, by decide, .text htoken⟩
  have hcommands : (Cbor.ofList (entriesToCbor snapshot.commands)).Fits := by
    rw [entriesToCbor_eq]
    apply Cbor.Fits.ofList
    · rw [List.length_map]
      exact h.commands
    · intro item hitem
      obtain ⟨entry, hentry, rfl⟩ := List.mem_map.mp hitem
      exact Entry.fits_toCbor (h.entries entry hentry)
  apply Cbor.Fits.ofMembers
  · simp
  · simp only [List.forall_mem_cons, List.not_mem_nil, false_implies, implies_true, and_true]
    exact ⟨⟨by decide, hcommands⟩, ⟨by decide, haliases _ h.aliases (List.subset_append_left _ _)⟩,
      by decide, haliases _ h.shortcuts (List.subset_append_right _ _)⟩

end Lengths

/-- The bytes of a command set are one item and hold the command set. -/
theorem cbor_dump_reads_back (table : Table) (h : (ofTable table).Fits) :
    ∃ bs, (ofTable table).encode .cbor = .ok (.bytes bs) ∧ Cbor.WellFormed bs ∧
      Snapshot.ofBytes? bs = some (ofTable table) := by
  have hitem := Snapshot.fits_toCbor h
  refine ⟨(ofTable table).toCbor.bytes, rfl, Cbor.wellFormed_bytes hitem, ?_⟩
  rw [Snapshot.ofBytes?, Cbor.read_bytes hitem, Option.bind_some]
  exact Snapshot.ofCbor_toCbor (ofTable table)

/-- A command set with an annotation that takes more than 24 bytes. -/
def labelTable : Table :=
  Table.build
    (Node.branch "" "" [("GTO", Node.branch "22" "jumps – forward only – to a label" [("√A", Node.leaf "11")])])
    [⟨"go to", "GTO"⟩] [] [("GTO", Shift.f)]

/-- Its only command. -/
def labelEntry : Entry :=
  ⟨"GTO", "22", "jumps – forward only – to a label", "f", [⟨"√A", "11", "", "", []⟩]⟩

set_option maxRecDepth 20000 in
theorem cbor_dump_reads_back_label :
    (ofTable labelTable).commands = [labelEntry] ∧
    ∃ bs, (ofTable labelTable).encode .cbor = .ok (.bytes bs) ∧ Cbor.WellFormed bs ∧
      Snapshot.ofBytes? bs = some (ofTable labelTable) := by
  have hcommands : (ofTable labelTable).commands = [labelEntry] := rfl
  have haliases : (ofTable labelTable).aliases = [⟨"GO TO", "GTO"⟩] := by decide
  have hshortcuts : (ofTable labelTable).shortcuts = [] := rfl
  have hlabel : Entry.Fits ⟨"√A", "11", "", "", []⟩ :=
    .mk (by decide) (by decide) (by decide) (by decide) (by decide) (by simp)
  have hjump : labelEntry.Fits :=
    .mk (by decide) (by decide) (by decide) (by decide) (by decide) (by simpa [labelEntry] using hlabel)
  have hfits : (ofTable labelTable).Fits := by
    constructor
    · simp [hcommands]
    · simp [haliases]
    · simp [hshortcuts]
    · simpa [hcommands] using hjump
    · rw [haliases, hshortcuts]
      decide
  exact ⟨hcommands, cbor_dump_reads_back labelTable hfits⟩

end Keystroke.Dump
