/-! CBOR items and their bytes: lengths are definite and in the shortest form. -/
namespace Keystroke.Dump

/-- An item of texts, lists and maps. -/
inductive Cbor where
  | null
  | text (value : String)
  | array (items : List Cbor)
  | map (members : List (String × Cbor))

namespace Cbor

/-- A number in `size` bytes, highest first. -/
def bigEndian : Nat → Nat → List UInt8
  | 0, _ => []
  | size + 1, n => bigEndian size (n / 256) ++ [UInt8.ofNat (n % 256)]

/-- The head of an item: its major type and its length in the fewest bytes. -/
def head (major length : Nat) : List UInt8 :=
  let kind := 32 * major
  if length < 24 then [UInt8.ofNat (kind + length)]
  else if length < 0x100 then UInt8.ofNat (kind + 24) :: bigEndian 1 length
  else if length < 0x10000 then UInt8.ofNat (kind + 25) :: bigEndian 2 length
  else if length < 0x100000000 then UInt8.ofNat (kind + 26) :: bigEndian 4 length
  else UInt8.ofNat (kind + 27) :: bigEndian 8 length

def textBytes (value : String) : List UInt8 :=
  head 3 value.utf8ByteSize ++ value.toUTF8.toList

mutual

def bytes : Cbor → List UInt8
  | .null => [0xF6]
  | .text value => textBytes value
  | .array items => head 4 items.length ++ itemBytes items
  | .map members => head 5 members.length ++ memberBytes members

def itemBytes : List Cbor → List UInt8
  | [] => []
  | item :: rest => item.bytes ++ itemBytes rest

/-- The bytes of the members of a map, each name before its value. -/
def memberBytes : List (String × Cbor) → List UInt8
  | [] => []
  | (name, value) :: rest => textBytes name ++ value.bytes ++ memberBytes rest

end

end Cbor

end Keystroke.Dump
