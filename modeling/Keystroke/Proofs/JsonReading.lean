import Keystroke.Proofs.DumpReading
import Keystroke.Proofs.JsonGrammar

/-! A command set that was written out as JSON is one JSON text and can be read back whole. -/
namespace Keystroke.Dump

open Keystroke.Command

namespace Json

section Strings

theorem unit_hexDigits {n : Nat} (h : n < 0x20 ∨ n = 0x2028 ∨ n = 0x2029) :
    unit? (Text.hexDigits 4 n) = some n ∧ isHigh n = false ∧ isLow n = false := by
  rcases h with h | rfl | rfl
  · revert n
    decide
  · decide
  · decide

theorem isChar_escapeChar (c : Char) : IsChar (escapeChar c) c := by
  unfold escapeChar
  split
  · exact .escape rfl
  · exact .escape rfl
  · exact .escape rfl
  · exact .escape rfl
  · exact .escape rfl
  · exact .escape rfl
  · exact .escape rfl
  · rename_i hquote hslash _ _ _ _ _
    split_ifs with hc
    · have hn : c.toNat < 0x20 ∨ c.toNat = 0x2028 ∨ c.toNat = 0x2029 := by
        simpa [or_assoc] using hc
      obtain ⟨hunit, hhigh, hlow⟩ := unit_hexDigits hn
      have hchar := IsChar.unit hunit hhigh hlow
      rwa [Char.ofNat_toNat] at hchar
    · have hcontrol : 0x20 ≤ c.toNat := by
        simp only [Bool.or_eq_true, decide_eq_true_eq] at hc
        omega
      exact .plain hquote hslash hcontrol

theorem isBody_flatMap (s : List Char) : IsBody (s.flatMap escapeChar) s := by
  induction s with
  | nil => exact .nil
  | cons c rest ih =>
    rw [List.flatMap_cons]
    exact .cons (isChar_escapeChar c) ih

theorem isString_quoted (text : String) : IsString (quoted text) text := by
  have hstring := IsString.mk (isBody_flatMap text.toList)
  rwa [String.ofList_toList] at hstring

end Strings

section Documents

mutual

/-- A document as a value. -/
def value : Json → Value
  | .null => .null
  | .string text => .string text
  | .array items => .array (itemValues items)
  | .object members => .object (memberValues members)

def itemValues : List Json → List Value
  | [] => []
  | item :: rest => item.value :: itemValues rest

def memberValues : List (String × Json) → List (String × Value)
  | [] => []
  | (name, item) :: rest => (name, item.value) :: memberValues rest

end

theorem newLine_isSpace (depth : Nat) : (newLine depth).all isSpace := by
  have htabs : (List.replicate depth '\t').all isSpace := by
    rw [List.all_eq_true]
    intro c hc
    rw [(List.mem_replicate.mp hc).2]
    rfl
  rw [newLine, List.all_cons, htabs]
  rfl

/-- White space stands in front of each item, and behind the last one only. -/
theorem listed_itemChars {depth : Nat} {items : List Json} (hne : items ≠ [])
    (h : ∀ item ∈ items, IsValue (item.chars depth) item.value) :
    Listed (Padded IsValue) (itemChars depth true items) (itemValues items) := by
  induction items with
  | nil => exact absurd rfl hne
  | cons item rest ih =>
    have hitem := h item List.mem_cons_self
    cases rest with
    | nil =>
      have hlast : Padded IsValue (newLine depth ++ (item.chars depth ++ newLine (depth - 1))) item.value :=
        .mk (newLine_isSpace depth) hitem (newLine_isSpace (depth - 1))
      simpa [itemChars, itemValues] using Listed.last hlast
    | cons next rest =>
      have hfirst : Padded IsValue (newLine depth ++ (item.chars depth ++ [])) item.value :=
        .mk (newLine_isSpace depth) hitem rfl
      have hrest := ih (List.cons_ne_nil _ _) fun other hother => h other (List.mem_cons_of_mem _ hother)
      simpa [itemChars, itemValues] using Listed.more hfirst hrest

theorem listed_memberChars {depth : Nat} {members : List (String × Json)} (hne : members ≠ [])
    (h : ∀ member ∈ members, IsValue (member.2.chars depth) member.2.value) :
    Listed (IsMember IsValue) (memberChars depth true members) (memberValues members) := by
  induction members with
  | nil => exact absurd rfl hne
  | cons member rest ih =>
    obtain ⟨name, item⟩ := member
    have hname : Padded IsString (newLine depth ++ (quoted name ++ [])) name :=
      .mk (newLine_isSpace depth) (isString_quoted name) rfl
    have hitem := h (name, item) List.mem_cons_self
    cases rest with
    | nil =>
      have hlast : Padded IsValue ([' '] ++ (item.chars depth ++ newLine (depth - 1))) item.value :=
        .mk rfl hitem (newLine_isSpace (depth - 1))
      simpa [memberChars, memberValues] using Listed.last (IsMember.mk hname hlast)
    | cons next rest =>
      have hfirst : Padded IsValue ([' '] ++ (item.chars depth ++ [])) item.value := .mk rfl hitem rfl
      have hrest := ih (List.cons_ne_nil _ _) fun other hother => h other (List.mem_cons_of_mem _ hother)
      simpa [memberChars, memberValues] using Listed.more (IsMember.mk hname hfirst) hrest

theorem isValue_array {depth : Nat} {items : List Json}
    (h : ∀ item ∈ items, IsValue (item.chars (depth + 1)) item.value) :
    IsValue ((Json.array items).chars depth) (Json.array items).value := by
  rw [chars, value]
  by_cases hne : items = []
  · subst hne
    exact .emptyArray rfl
  · exact .array (listed_itemChars hne h)

theorem isValue_object {depth : Nat} {members : List (String × Json)}
    (h : ∀ member ∈ members, IsValue (member.2.chars (depth + 1)) member.2.value) :
    IsValue ((Json.object members).chars depth) (Json.object members).value := by
  rw [chars, value]
  by_cases hne : members = []
  · subst hne
    exact .emptyObject rfl
  · exact .object (listed_memberChars hne h)

mutual

theorem isValue_chars (depth : Nat) : (document : Json) → IsValue (document.chars depth) document.value
  | .null => .word (by simp [words, chars, value])
  | .string text => .string (isString_quoted text)
  | .array items => isValue_array (isValue_items (depth + 1) items)
  | .object members => isValue_object (isValue_members (depth + 1) members)

theorem isValue_items (depth : Nat) : (items : List Json) → ∀ item ∈ items, IsValue (item.chars depth) item.value
  | [] => by simp
  | first :: rest => by
    rw [List.forall_mem_cons]
    exact ⟨isValue_chars depth first, isValue_items depth rest⟩

theorem isValue_members (depth : Nat) : (members : List (String × Json)) →
    ∀ member ∈ members, IsValue (member.2.chars depth) member.2.value
  | [] => by simp
  | (_, first) :: rest => by
    rw [List.forall_mem_cons]
    exact ⟨isValue_chars depth first, isValue_members depth rest⟩

end

end Documents

section Items

mutual

/-- The CBOR item with the same content. Numbers and truth values have none here. -/
def Value.item? : Value → Option Cbor
  | .null => some .null
  | .string text => some (.text text)
  | .array items => (itemsOf? items).map .array
  | .object members => (membersOf? members).map .map
  | _ => none

def itemsOf? : List Value → Option (List Cbor)
  | [] => some []
  | first :: rest => first.item?.bind fun item => (itemsOf? rest).map (item :: ·)

def membersOf? : List (String × Value) → Option (List (String × Cbor))
  | [] => some []
  | (name, first) :: rest => first.item?.bind fun item => (membersOf? rest).map ((name, item) :: ·)

end

theorem item_ofList {items : List Json} {cs : List Cbor} (h : itemsOf? (itemValues items) = some cs) :
    (ofList items).value.item? = some (Cbor.ofList cs) := by
  cases items with
  | nil =>
    obtain rfl : [] = cs := Option.some.inj h
    rfl
  | cons item rest =>
    have hcs : cs ≠ [] := by
      rintro rfl
      simp [itemValues, itemsOf?, Option.bind_eq_some_iff] at h
    rw [ofList, Cbor.ofList, List.isEmpty_cons, List.isEmpty_eq_false_iff.mpr hcs]
    simp only [Bool.false_eq_true, if_false, value, Value.item?, h, Option.map_some]

end Items

end Json

section Snapshots

mutual

theorem Entry.item_toJson : (entry : Entry) → entry.toJson.value.item? = some entry.toCbor
  | ⟨token, keycode, comment, shift, args⟩ => by
    have hargs := itemsOf_entriesToJson args
    rw [Entry.toJson, Entry.toCbor]
    split_ifs <;> simp [Json.value, Json.memberValues, Json.Value.item?, Json.membersOf?, hargs]

theorem itemsOf_entriesToJson : (entries : List Entry) →
    Json.itemsOf? (Json.itemValues (entriesToJson entries)) = some (entriesToCbor entries)
  | [] => rfl
  | entry :: rest => by
    rw [entriesToJson, Json.itemValues, Json.itemsOf?, Entry.item_toJson entry, itemsOf_entriesToJson rest]
    rfl

end

theorem itemsOf_aliases (aliases : List Alias) :
    Json.itemsOf? (Json.itemValues (aliases.map aliasToJson)) = some (aliases.map aliasToCbor) := by
  induction aliases with
  | nil => rfl
  | cons a rest ih =>
    rw [List.map_cons, Json.itemValues, Json.itemsOf?, ih]
    rfl

/-- The two formats hold the same tree. -/
theorem Snapshot.item_toJson (snapshot : Snapshot) : snapshot.toJson.value.item? = some snapshot.toCbor := by
  have hcommands := Json.item_ofList (itemsOf_entriesToJson snapshot.commands)
  have haliases := Json.item_ofList (itemsOf_aliases snapshot.aliases)
  have hshortcuts := Json.item_ofList (itemsOf_aliases snapshot.shortcuts)
  simp [Snapshot.toJson, Snapshot.toCbor, Json.value, Json.memberValues, Json.Value.item?, Json.membersOf?, hcommands,
    haliases, hshortcuts]

def Snapshot.ofValue? (v : Json.Value) : Option Snapshot :=
  v.item?.bind Snapshot.ofCbor?

/-- A command set is written as one JSON value and a line feed. The text stands for nothing else, and holds the
command set. -/
theorem json_dump_reads_back (table : Table) : ∃ (document : List Char) (v : Json.Value),
    (ofTable table).encode .json = .ok (.text (String.ofList (document ++ ['\n']))) ∧ Json.IsValue document v ∧
    (∀ w, Json.IsText (document ++ ['\n']) w ↔ w = v) ∧ Json.parse? (document ++ ['\n']) = some v ∧
    Snapshot.ofValue? v = some (ofTable table) := by
  have hvalue := Json.isValue_chars 0 (ofTable table).toJson
  have htext : Json.IsText ([] ++ ((ofTable table).toJson.chars 0 ++ ['\n'])) (ofTable table).toJson.value :=
    .mk rfl hvalue rfl
  have hparse := Json.parse_of_isText htext
  refine ⟨(ofTable table).toJson.chars 0, (ofTable table).toJson.value, rfl, hvalue, ?_, hparse, ?_⟩
  · intro w
    constructor
    · intro hw
      have hread := Json.parse_of_isText hw
      rw [List.nil_append, hread] at hparse
      exact Option.some.inj hparse
    · rintro rfl
      exact htext
  · rw [Snapshot.ofValue?, Snapshot.item_toJson, Option.bind_some]
    exact Snapshot.ofCbor_toCbor (ofTable table)

end Snapshots

end Keystroke.Dump
