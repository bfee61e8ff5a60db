import Keystroke.Proofs.Keypad
import Keystroke.Proofs.Numbering
import Keystroke.Proofs.Numerals
import Mathlib.Data.List.Nodup

/-! All instructions of a command set, one for each way from the root of the command tree down to a complete
node. On the HP-15C every instruction that is read is one of them, those that key in a numeral included, and
no two of them have the same keycodes. To tell keycodes apart they are given a number, in which blanks in front
do not count and a dotted keycode counts like the two keys that are pressed for it. -/
namespace Keystroke.Command

namespace Node

mutual

/-- All ways from a node down to a complete one. -/
def ways : Node → List (List (String × Node))
  | mk _ _ args => if args.isEmpty then [[]] else waysThrough args

/-- All ways that start with one of the given arguments. -/
def waysThrough : List (String × Node) → List (List (String × Node))
  | [] => []
  | (token, node) :: rest => node.ways.map ((token, node) :: ·) ++ waysThrough rest

end

theorem mem_waysThrough {arg : String × Node} {args : List (String × Node)}
    {way : List (String × Node)} (ha : arg ∈ args) (hw : way ∈ arg.2.ways) :
    arg :: way ∈ waysThrough args := by
  induction args with
  | nil => simp at ha
  | cons first args ih =>
    rw [waysThrough, List.mem_append]
    rcases List.mem_cons.mp ha with rfl | ha
    · exact Or.inl (List.mem_map_of_mem hw)
    · exact Or.inr (ih ha)

theorem nil_mem_ways {node : Node} (h : node.isComplete) : [] ∈ node.ways := by
  cases node with
  | mk keycode comment args =>
    have hargs : args.isEmpty = true := h
    simp [ways, hargs]

theorem cons_mem_ways {node child : Node} {token : String} {way : List (String × Node)}
    (hc : node.child? token = some child) (hw : way ∈ child.ways) : (token, child) :: way ∈ node.ways := by
  cases node with
  | mk keycode comment args =>
    have ha : (token, child) ∈ args := Text.mem_of_lookup hc
    have hne : ¬ args.isEmpty = true := by
      rw [List.isEmpty_iff]
      exact List.ne_nil_of_mem ha
    rw [ways, if_neg hne]
    exact mem_waysThrough ha hw

end Node

end Keystroke.Command

namespace Keystroke.Statement

open Keystroke.Command Keystroke.Text

theorem Spells.mem_ways {table : Table} {node : Node} {groups : List Group}
    (hs : Spells table node groups) (hc : (lastNode node groups).isComplete) :
    groups.map (fun group => (group.token, group.node)) ∈ node.ways := by
  induction hs with
  | nil node => exact Node.nil_mem_ways hc
  | cons hsel _ ih => exact Node.cons_mem_ways hsel.child (ih hc)

/-- The instruction of a way from the root. -/
def Record.ofWay (table : Table) (way : List (String × Node)) : Record :=
  Record.ofPath table (way.map Prod.fst) (way.map Prod.snd)

/-- The instructions of a command set. -/
def instructions (table : Table) : List Record :=
  table.root.ways.map (Record.ofWay table)

theorem mem_instructions_of_spells {table : Table} {groups : List Group}
    (hs : Spells table table.root groups) (hc : (lastNode table.root groups).isComplete) :
    Record.ofPath table (groups.map Group.token) (groups.map Group.node) ∈ instructions table := by
  have hway : Record.ofWay table (groups.map fun group => (group.token, group.node)) ∈
      instructions table := List.mem_map_of_mem (hs.mem_ways hc)
  simpa [Record.ofWay, Function.comp_def] using hway

/-- The instruction of a command alone, without a shift key and annotation, is that of its key. -/
theorem Record.ofPath_eq_key {table : Table} {token : String} {node : Node}
    (hc : table.root.child? token = some node) (hcomment : node.comment = "") (hs : table.shift? token = none) :
    Record.ofPath table [token] [node] = Record.key table token := by
  simp [Record.ofPath, Record.key, hs, hc, hcomment]

/-- A complete command without a shift key and annotation is the instruction of its key. -/
theorem mem_instructions_of_key {table : Table} {token : String} {node : Node}
    (hc : table.root.child? token = some node) (hcomplete : node.isComplete)
    (hcomment : node.comment = "") (hs : table.shift? token = none) :
    Record.key table token ∈ instructions table := by
  have hway := List.mem_map_of_mem (f := Record.ofWay table)
    (Node.cons_mem_ways hc (Node.nil_mem_ways hcomplete))
  have hkey : Record.ofWay table [(token, node)] = Record.key table token :=
    Record.ofPath_eq_key hc hcomment hs
  exact hkey ▸ hway

/-- The keys that numerals are keyed in with. -/
def numeralKeys : List String :=
  ["0", "1", "2", "3", "4", "5", "6", "7", "8", "9", ".", "CHS", "EEX"]

theorem singleton_mem_numeralKeys {c : Char} (h : c.isDigit = true ∨ c = '.') :
    String.singleton c ∈ numeralKeys := by
  rcases h with h | rfl
  · have hrange : 48 ≤ c.toNat ∧ c.toNat ≤ 57 := by
      simp only [Char.isDigit, Bool.and_eq_true, decide_eq_true_eq, UInt32.le_iff_toNat_le] at h
      exact h
    have hall : ∀ n < 10, String.singleton (Char.ofNat (48 + n)) ∈ numeralKeys := by decide
    have hkey := hall (c.toNat - 48) (by omega)
    rwa [show 48 + (c.toNat - 48) = c.toNat by omega, Char.ofNat_toNat] at hkey
  · decide

/-- A numeral that is read has digits, and a point in its mantissa. -/
theorem ofWord_chars {text : String} {n : Numeral} (h : Numeral.ofWord? text = some n) :
    (∀ c ∈ n.mantissa.toList, c.isDigit = true ∨ c = '.') ∧
      ∀ c ∈ n.exponent.toList, c.isDigit = true := by
  unfold Numeral.ofWord? Numeral.ofChars? at h
  dsimp only at h
  split at h
  · simp at h
  · rename_i negative exponent hexponent
    split_ifs at h
    obtain rfl := Option.some.inj h
    simp only [String.toList_ofList]
    exact ⟨Numeral.splitMantissa_chars _, (Numeral.readExponent_split hexponent).2⟩

theorem tokens_mem_numeralKeys {text : String} {n : Numeral} (h : Numeral.ofWord? text = some n) :
    ∀ token ∈ n.tokens, token ∈ numeralKeys := by
  obtain ⟨hmantissa, hexponent⟩ := ofWord_chars h
  have hchars {cs : List Char} (hcs : ∀ c ∈ cs, c.isDigit = true ∨ c = '.') :
      ∀ token ∈ cs.map String.singleton, token ∈ numeralKeys := by
    intro token ht
    obtain ⟨c, hc, rfl⟩ := List.mem_map.mp ht
    exact singleton_mem_numeralKeys (hcs c hc)
  have hsign (negative : Bool) : ∀ token ∈ (if negative then ["CHS"] else []), token ∈ numeralKeys := by
    cases negative <;> decide
  intro token ht
  rw [Numeral.tokens, List.mem_append, List.mem_append] at ht
  rcases ht with (ht | ht) | ht
  · exact hchars hmantissa token ht
  · exact hsign n.negative token ht
  · by_cases hnone : n.exponent = ""
    · simp [hnone] at ht
    · rw [if_neg hnone, List.cons_append, List.mem_cons, List.mem_append] at ht
      rcases ht with rfl | ht | ht
      · decide
      · exact hsign n.exponentNegative token ht
      · exact hchars (fun c hc => Or.inl (hexponent c hc)) token ht

theorem numeralKeys_checked : (numeralKeys.all fun token =>
    ((Table.standard.root.child? token).any fun node => node.isComplete && node.comment == "") &&
      (Table.standard.shift? token).isNone) = true := by
  decide +kernel

/-- On the HP-15C the keys of numerals are complete commands on their own, without a shift key. -/
theorem standard_numeralKeys : ∀ token ∈ numeralKeys, ∃ node,
    Table.standard.root.child? token = some node ∧ node.isComplete ∧ node.comment = "" ∧
      Table.standard.shift? token = none := by
  intro token ht
  have hchecked := List.all_eq_true.mp numeralKeys_checked token ht
  rw [Bool.and_eq_true, Option.any_eq_true, Option.isNone_iff_eq_none] at hchecked
  obtain ⟨⟨node, hc, hnode⟩, hs⟩ := hchecked
  rw [Bool.and_eq_true, beq_iff_eq] at hnode
  exact ⟨node, hc, hnode.1, hnode.2, hs⟩

theorem standard_keys_mem {text : String} {n : Numeral} (h : Numeral.ofWord? text = some n) :
    ∀ record ∈ n.keys Table.standard, record ∈ instructions Table.standard := by
  intro record hrecord
  obtain ⟨token, htoken, rfl⟩ := List.mem_map.mp hrecord
  obtain ⟨node, hc, hcomplete, hcomment, hs⟩ :=
    standard_numeralKeys token (tokens_mem_numeralKeys h token htoken)
  exact mem_instructions_of_key hc hcomplete hcomment hs

/-- Whatever is read on the HP-15C consists of its instructions. -/
theorem standard_records_mem {words : List String} {r : Resolution}
    (h : resolve Table.standard words = .ok r) :
    ∀ record ∈ r.records, record ∈ instructions Table.standard := by
  rcases resolve_ok_cases h with rfl | ⟨groups, rest, hw, ho⟩
  · simp
  · cases ho with
    | command hg hc => simpa using mem_instructions_of_spells hw.spells hc
    | literal hg hrest hl hne =>
      obtain ⟨text, n, hn, rfl⟩ := Listing.literal_keys hl hne
      exact standard_keys_mem hn
    | expression | unknown | missing | invalid => simp

/-- Counts on with a character. A point counts as the keycode of the decimal point key and two blanks. -/
def tally (n : Nat) (c : Char) : Nat :=
  -- The digits of 48 count 20 and 24, and a blank counts nothing.
  if c = '.' then n * 100000000 + 20240000 else n * 100 + (c.toNat - 32)

/-- The number of keycodes. -/
def keycodesNumber (keycodes : List String) : Nat :=
  keycodes.foldl (fun n keycode => keycode.toList.foldl tally (tally n ' ')) 0

/-- A text that can stand between the braces of a line. -/
def inColumn (text : String) : Bool :=
  text.toList.all fun c => c != '\n' && c != '\x7d'

set_option maxRecDepth 20000 in
theorem instructions_checked :
    (∀ k ∈ List.range 37, (((instructions Table.standard).filter
      fun record => keycodesNumber record.keycodes % 37 == k).map
        fun record => keycodesNumber record.keycodes).Nodup) ∧
    (instructions Table.standard).all (fun record =>
      (record.shift :: record.comment :: (record.path ++ record.keycodes)).all inColumn) = true := by
  -- Numbers are compared within the classes of a remainder, since all pairs would be too many.
  decide +kernel

/-- No text of an instruction ends its line or its keycodes. -/
structure InColumn (record : Record) : Prop where
  shift : inColumn record.shift = true
  comment : inColumn record.comment = true
  path : ∀ token ∈ record.path, inColumn token = true
  keycodes : ∀ keycode ∈ record.keycodes, inColumn keycode = true

theorem standard_inColumn {record : Record} (h : record ∈ instructions Table.standard) :
    InColumn record := by
  have hchecked := List.all_eq_true.mp instructions_checked.2 record h
  simp only [List.all_cons, List.all_append, Bool.and_eq_true, List.all_eq_true] at hchecked
  obtain ⟨hshift, hcomment, hpath, hkeycodes⟩ := hchecked
  exact ⟨hshift, hcomment, hpath, hkeycodes⟩

/-- No two instructions of the HP-15C have the same number. -/
theorem eq_of_keycodesNumber {record record' : Record} (h : record ∈ instructions Table.standard)
    (h' : record' ∈ instructions Table.standard)
    (hn : keycodesNumber record.keycodes = keycodesNumber record'.keycodes) : record = record' := by
  have hclass := instructions_checked.1 (keycodesNumber record.keycodes % 37)
    (List.mem_range.mpr (Nat.mod_lt _ (by decide)))
  refine List.inj_on_of_nodup_map hclass ?_ ?_ hn
  · simpa using h
  · simpa [hn] using h'

end Keystroke.Statement
