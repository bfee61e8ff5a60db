import Keystroke.Dump.Cbor
import Mathlib.Algebra.Group.Nat.Defs
import Mathlib.Data.List.Basic

/-! The bytes of a CBOR item are well-formed and can be read back, if its lengths fit into eight bytes. -/
namespace Keystroke.Dump.Cbor

/-- The number that bytes stand for, highest first. -/
def ofBigEndian (bs : List UInt8) : Nat :=
  bs.foldl (fun n b => 256 * n + b.toNat) 0

/-- The head of an item: its argument stands in the first byte or in the 1, 2, 4 or 8 bytes behind it. -/
inductive IsHead (major : Nat) : Nat → List UInt8 → Prop
  | short {n : Nat} : n < 24 → IsHead major n [UInt8.ofNat (32 * major + n)]
  | long {k : Nat} {tail : List UInt8} : k < 4 → tail.length = 2 ^ k →
    IsHead major (ofBigEndian tail) (UInt8.ofNat (32 * major + (24 + k)) :: tail)

/-- One complete item of definite length, of any major type. -/
inductive WellFormed : List UInt8 → Prop
  | number {major n : Nat} {head : List UInt8} : major = 0 ∨ major = 1 → IsHead major n head → WellFormed head
  | string {major : Nat} {head content : List UInt8} : major = 2 ∨ major = 3 →
    IsHead major content.length head → WellFormed (head ++ content)
  | array {head : List UInt8} {items : List (List UInt8)} : IsHead 4 items.length head →
    (∀ item ∈ items, WellFormed item) → WellFormed (head ++ items.flatten)
  | map {n : Nat} {head : List UInt8} {items : List (List UInt8)} : IsHead 5 n head → items.length = 2 * n →
    (∀ item ∈ items, WellFormed item) → WellFormed (head ++ items.flatten)
  | tag {n : Nat} {head item : List UInt8} : IsHead 6 n head → WellFormed item → WellFormed (head ++ item)
  -- A simple value below 32 never takes a second byte.
  | simple {n : Nat} {head : List UInt8} : IsHead 7 n head → (head.length = 2 → 32 ≤ n) → WellFormed head

/-- An item whose texts and lists have lengths that fit into a head. -/
inductive Fits : Cbor → Prop
  | null : Fits .null
  | text {value : String} : value.utf8ByteSize < 2 ^ 64 → Fits (.text value)
  | array {items : List Cbor} : items.length < 2 ^ 64 → (∀ item ∈ items, item.Fits) → Fits (.array items)
  | map {members : List (String × Cbor)} : members.length < 2 ^ 64 →
    (∀ member ∈ members, member.1.utf8ByteSize < 2 ^ 64) → (∀ member ∈ members, member.2.Fits) →
    Fits (.map members)

section Heads

theorem length_bigEndian (size n : Nat) : (bigEndian size n).length = size := by
  induction size generalizing n with
  | zero => rfl
  | succ size ih => rw [bigEndian, List.length_append, ih, List.length_singleton]

theorem ofBigEndian_bigEndian {size n : Nat} (h : n < 256 ^ size) : ofBigEndian (bigEndian size n) = n := by
  induction size generalizing n with
  | zero =>
    have hn : n = 0 := by simpa using h
    rw [hn]
    rfl
  | succ size ih =>
    have hhigh : n / 256 < 256 ^ size := by
      rw [Nat.div_lt_iff_lt_mul (by decide), ← Nat.pow_succ]
      exact h
    have hlow : (UInt8.ofNat (n % 256)).toNat = n % 256 := UInt8.toNat_ofNat_of_lt (Nat.mod_lt n (by decide))
    have hstep (bs : List UInt8) (b : UInt8) : ofBigEndian (bs ++ [b]) = 256 * ofBigEndian bs + b.toNat := by
      simp [ofBigEndian]
    rw [bigEndian, hstep, ih hhigh, hlow]
    exact Nat.div_add_mod n 256

theorem isHead_long {major k n : Nat} (hk : k < 4) (hn : n < 256 ^ 2 ^ k) :
    IsHead major n (UInt8.ofNat (32 * major + (24 + k)) :: bigEndian (2 ^ k) n) := by
  have hlong : IsHead major (ofBigEndian (bigEndian (2 ^ k) n)) _ := .long hk (length_bigEndian (2 ^ k) n)
  rwa [ofBigEndian_bigEndian hn] at hlong

theorem isHead_head (major : Nat) {n : Nat} (h : n < 2 ^ 64) : IsHead major n (head major n) := by
  unfold head
  dsimp only
  split_ifs with h24 h8 h16 h32
  · exact .short h24
  · exact isHead_long (k := 0) (by decide) h8
  · exact isHead_long (k := 1) (by decide) h16
  · exact isHead_long (k := 2) (by decide) h32
  · exact isHead_long (k := 3) (by decide) h

end Heads

section WellFormed

theorem itemBytes_eq (items : List Cbor) : itemBytes items = items.flatMap bytes := by
  induction items with
  | nil => rfl
  | cons item rest ih => rw [itemBytes, List.flatMap_cons, ih]

theorem memberBytes_eq (members : List (String × Cbor)) :
    memberBytes members = members.flatMap fun member => textBytes member.1 ++ member.2.bytes := by
  induction members with
  | nil => rfl
  | cons member rest ih => rw [memberBytes, List.flatMap_cons, ih]

theorem toListLoop_eq (b : ByteArray) (i : Nat) (read : List UInt8) :
    ByteArray.toList.loop b i read = read.reverse ++ b.data.toList.drop i := by
  fun_induction ByteArray.toList.loop b i read with
  | case1 i read hi ih =>
    have hlength : i < b.data.toList.length := hi
    have hget : b.get! i = b.data.toList.get ⟨i, hlength⟩ := getElem!_pos b.data i hi
    rw [ih, List.drop_eq_getElem_cons hlength, List.reverse_cons, List.append_assoc, hget]
    rfl
  | case2 i read hi =>
    have hlength : b.data.toList.length ≤ i := Nat.le_of_not_lt hi
    rw [List.drop_eq_nil_of_le hlength, List.append_nil]

theorem toUTF8_toList (value : String) : value.toUTF8.toList = value.toUTF8.data.toList := by
  have hloop := toListLoop_eq value.toUTF8 0 []
  rwa [List.reverse_nil, List.nil_append, List.drop_zero] at hloop

theorem length_toUTF8 (value : String) : value.toUTF8.toList.length = value.utf8ByteSize := by
  rw [toUTF8_toList]
  rfl

theorem wellFormed_textBytes {value : String} (h : value.utf8ByteSize < 2 ^ 64) : WellFormed (textBytes value) := by
  have hhead := isHead_head 3 h
  rw [← length_toUTF8 value] at hhead
  unfold textBytes
  rw [← length_toUTF8 value]
  exact .string (.inr rfl) hhead

theorem wellFormed_bytes {c : Cbor} (h : c.Fits) : WellFormed c.bytes := by
  induction h with
  | null => exact .simple (n := 22) (.short (by decide)) (by decide)
  | text hvalue => exact wellFormed_textBytes hvalue
  | @array items hlength _ ih =>
    have hhead : IsHead 4 (items.map bytes).length (head 4 items.length) := by
      rw [List.length_map]
      exact isHead_head 4 hlength
    have hitems : ∀ item ∈ items.map bytes, WellFormed item := by
      intro item hitem
      obtain ⟨c, hc, rfl⟩ := List.mem_map.mp hitem
      exact ih c hc
    rw [bytes, itemBytes_eq, List.flatMap_def]
    exact .array hhead hitems
  | @map members hlength hnames _ ih =>
    -- Each name is an item of its own, so there are twice as many items as members.
    let pair (member : String × Cbor) : List (List UInt8) := [textBytes member.1, member.2.bytes]
    have hcount : (members.flatMap pair).length = 2 * members.length := by
      simp [pair, List.length_flatMap, Nat.mul_comm]
    have hitems : ∀ item ∈ members.flatMap pair, WellFormed item := by
      intro item hitem
      obtain ⟨member, hmember, hpair⟩ := List.mem_flatMap.mp hitem
      rcases List.mem_pair.mp hpair with rfl | rfl
      · exact wellFormed_textBytes (hnames member hmember)
      · exact ih member hmember
    have hflatten : memberBytes members = (members.flatMap pair).flatten := by
      rw [memberBytes_eq, ← List.flatMap_id, List.flatMap_assoc]
      simp [pair]
    rw [bytes, hflatten]
    exact .map (isHead_head 5 hlength) hcount hitems

end WellFormed

section Reading

/-- Takes a value off the front of bytes. -/
abbrev Reader := StateT (List UInt8) Option

namespace Reader

def byte : Reader UInt8
  | [] => none
  | b :: rest => some (b, rest)

def take (n : Nat) : Reader (List UInt8) := fun bs =>
  if n ≤ bs.length then some (bs.splitAt n) else none

def times {α : Type} (reader : Reader α) : Nat → Reader (List α)
  | 0 => pure []
  | n + 1 => do
    let first ← reader
    let rest ← times reader n
    return first :: rest

/-- The argument of a head whose first byte has some lower bits. -/
def argument (bits : Nat) : Reader Nat :=
  if bits < 24 then pure bits
  else if bits < 28 then ofBigEndian <$> take (2 ^ (bits - 24))
  else failure

/-- The first byte of a head and the argument. -/
def header : Reader (UInt8 × Nat) := do
  let first ← byte
  let n ← argument (first.toNat % 32)
  return (first, n)

def content (n : Nat) : Reader String := do
  let bs ← take n
  liftM (String.fromUTF8? bs.toByteArray)

def name : Reader String := do
  let (first, n) ← header
  if first.toNat / 32 = 3 then content n else failure

def member {α : Type} (value : Reader α) : Reader (String × α) := do
  let key ← name
  let item ← value
  return (key, item)

/-- Takes an item with heads of any form, nested less than `depth` levels deep. -/
def item : Nat → Reader Cbor
  | 0 => failure
  | depth + 1 => do
    let (first, n) ← header
    match first.toNat / 32 with
    | 3 => Cbor.text <$> content n
    | 4 => Cbor.array <$> times (item depth) n
    | 5 => Cbor.map <$> times (member (item depth)) n
    | _ => if first = 0xF6 then pure .null else failure

end Reader

/-- The reader takes a value off the bytes, whatever stands behind them. -/
def Reads {α : Type} (reader : Reader α) (bs : List UInt8) (a : α) : Prop :=
  ∀ rest, reader (bs ++ rest) = some (a, rest)

namespace Reads

variable {α β : Type} {reader : Reader α} {bs bs' : List UInt8} {a : α} {b : β}

theorem pure (a : α) : Reads (Pure.pure a) [] a :=
  fun _ => rfl

theorem bind {next : α → Reader β} (h : Reads reader bs a) (h' : Reads (next a) bs' b) :
    Reads (reader >>= next) (bs ++ bs') b := by
  intro rest
  have hbind : (reader >>= next) (bs ++ (bs' ++ rest)) =
      (reader (bs ++ (bs' ++ rest))).bind fun out => next out.1 out.2 := rfl
  rw [List.append_assoc, hbind, h, Option.bind_some]
  exact h' rest

theorem map (f : α → β) (h : Reads reader bs a) : Reads (f <$> reader) bs (f a) := by
  intro rest
  have hmap : (f <$> reader) (bs ++ rest) = (reader (bs ++ rest)).bind fun out => some (f out.1, out.2) := rfl
  rw [hmap, h, Option.bind_some]

theorem ret {f : α → β} (h : Reads reader bs a) : Reads (reader >>= fun a => Pure.pure (f a)) bs (f a) :=
  map f h

theorem byte (b : UInt8) : Reads Reader.byte [b] b :=
  fun _ => rfl

theorem take (bs : List UInt8) : Reads (Reader.take bs.length) bs bs := by
  intro rest
  simp [Reader.take]

theorem times {encode : α → List UInt8} {as : List α} (h : ∀ a ∈ as, Reads reader (encode a) a) :
    Reads (Reader.times reader as.length) (as.flatMap encode) as := by
  induction as with
  | nil => exact pure []
  | cons first rest ih =>
    have hrest := ih fun a ha => h a (List.mem_cons_of_mem _ ha)
    exact (h first List.mem_cons_self).bind hrest.ret

end Reads

theorem reads_header_of_argument {major bits n : Nat} {tail : List UInt8} (hmajor : major < 8) (hbits : bits < 32)
    (h : Reads (Reader.argument bits) tail n) : ∃ first : UInt8, first.toNat / 32 = major ∧
      Reads Reader.header (UInt8.ofNat (32 * major + bits) :: tail) (first, n) := by
  have hsize : 32 * major + bits < UInt8.size := by
    unfold UInt8.size
    omega
  have hfirst : (UInt8.ofNat (32 * major + bits)).toNat = 32 * major + bits := UInt8.toNat_ofNat_of_lt hsize
  have hmod : (UInt8.ofNat (32 * major + bits)).toNat % 32 = bits := by
    rw [hfirst]
    omega
  rw [← hmod] at h
  refine ⟨UInt8.ofNat (32 * major + bits), by omega, ?_⟩
  exact (Reads.byte _).bind h.ret

/-- Heads are read in all their forms. -/
theorem reads_header {major n : Nat} {head : List UInt8} (hmajor : major < 8) (h : IsHead major n head) :
    ∃ first : UInt8, first.toNat / 32 = major ∧ Reads Reader.header head (first, n) := by
  cases h with
  | short hn =>
    apply reads_header_of_argument hmajor (by omega)
    rw [Reader.argument, if_pos hn]
    exact .pure n
  | @long k tail hk htail =>
    apply reads_header_of_argument hmajor (by omega)
    rw [Reader.argument, if_neg (by omega), if_pos (by omega), Nat.add_sub_cancel_left, ← htail]
    exact (Reads.take tail).map ofBigEndian

theorem fromUTF8_toUTF8 (value : String) : String.fromUTF8? value.toUTF8.toList.toByteArray = some value := by
  have hbytes : value.toUTF8.toList.toByteArray = value.toUTF8 := by
    apply ByteArray.ext
    rw [List.data_toByteArray, toUTF8_toList, Array.toArray_toList]
  rw [hbytes]
  unfold String.fromUTF8?
  rw [String.toUTF8_eq_toByteArray, dif_pos value.isValidUTF8]
  rfl

theorem reads_content (value : String) :
    Reads (Reader.content value.utf8ByteSize) value.toUTF8.toList value := by
  have hlift : Reads (liftM (String.fromUTF8? value.toUTF8.toList.toByteArray)) [] value := by
    rw [fromUTF8_toUTF8]
    exact fun _ => rfl
  have hread : Reads (Reader.content value.toUTF8.toList.length) (value.toUTF8.toList ++ []) value :=
    (Reads.take value.toUTF8.toList).bind hlift
  rwa [length_toUTF8, List.append_nil] at hread

theorem reads_name {value : String} (h : value.utf8ByteSize < 2 ^ 64) : Reads Reader.name (textBytes value) value := by
  obtain ⟨first, hmajor, hheader⟩ := reads_header (by decide) (isHead_head 3 h)
  apply hheader.bind
  dsimp only
  rw [if_pos hmajor]
  exact reads_content value

theorem length_head_pos (major n : Nat) : 0 < (head major n).length := by
  unfold head
  dsimp only
  split_ifs <;> simp

theorem length_le_flatMap {α : Type} (encode : α → List UInt8) {a : α} {as : List α} (h : a ∈ as) :
    (encode a).length ≤ (as.flatMap encode).length := by
  rw [List.flatMap_def]
  exact (List.sublist_flatten_of_mem (List.mem_map_of_mem h)).length_le

/-- Each nested item has fewer bytes than the item around it, so that the number of bytes bounds the depth. -/
theorem reads_item {c : Cbor} (h : c.Fits) {depth : Nat} (hdepth : c.bytes.length < depth) :
    Reads (Reader.item depth) c.bytes c := by
  induction h generalizing depth with
  | null =>
    obtain ⟨depth, rfl⟩ := Nat.exists_eq_succ_of_ne_zero (Nat.ne_zero_of_lt hdepth)
    exact fun _ => rfl
  | @text value hvalue =>
    obtain ⟨depth, rfl⟩ := Nat.exists_eq_succ_of_ne_zero (Nat.ne_zero_of_lt hdepth)
    obtain ⟨first, hmajor, hheader⟩ := reads_header (by decide) (isHead_head 3 hvalue)
    apply hheader.bind
    simp only [hmajor]
    exact (reads_content value).map Cbor.text
  | @array items hlength _ ih =>
    obtain ⟨depth, rfl⟩ := Nat.exists_eq_succ_of_ne_zero (Nat.ne_zero_of_lt hdepth)
    obtain ⟨first, hmajor, hheader⟩ := reads_header (by decide) (isHead_head 4 hlength)
    -- The head takes a byte at least, so no item has as many bytes as the list.
    have hpos := length_head_pos 4 items.length
    rw [bytes, itemBytes_eq] at hdepth ⊢
    rw [List.length_append] at hdepth
    have hitem : ∀ item ∈ items, Reads (Reader.item depth) item.bytes item := by
      intro item hitem
      have hle := length_le_flatMap bytes hitem
      exact ih item hitem (by omega)
    apply hheader.bind
    simp only [hmajor]
    exact (Reads.times hitem).map Cbor.array
  | @map members hlength hnames _ ih =>
    obtain ⟨depth, rfl⟩ := Nat.exists_eq_succ_of_ne_zero (Nat.ne_zero_of_lt hdepth)
    obtain ⟨first, hmajor, hheader⟩ := reads_header (by decide) (isHead_head 5 hlength)
    have hpos := length_head_pos 5 members.length
    rw [bytes, memberBytes_eq] at hdepth ⊢
    rw [List.length_append] at hdepth
    have hmember : ∀ member ∈ members,
        Reads (Reader.member (Reader.item depth)) (textBytes member.1 ++ member.2.bytes) member := by
      intro member hmember
      have hle := length_le_flatMap (fun member : String × Cbor => textBytes member.1 ++ member.2.bytes) hmember
      rw [List.length_append] at hle
      exact (reads_name (hnames member hmember)).bind (ih member hmember (by omega)).ret
    apply hheader.bind
    simp only [hmajor]
    exact (Reads.times hmember).map Cbor.map

/-- The item that bytes hold, with nothing behind it. -/
def read? (bs : List UInt8) : Option Cbor :=
  match Reader.item (bs.length + 1) bs with
  | some (c, []) => some c
  | _ => none

theorem read_bytes {c : Cbor} (h : c.Fits) : read? c.bytes = some c := by
  have hread := reads_item h (Nat.lt_succ_self _) []
  rw [List.append_nil] at hread
  rw [read?, hread]

end Reading

end Keystroke.Dump.Cbor
