import Keystroke.Text.Lower

/-! Lower-casing through a buffer. A text is taken in blocks of bytes, and its image goes to a buffer that
grows once it is full. A character that meets a buffer without room for its image is lost, and one that a
block cuts in two becomes replacement characters. Short texts are not touched by any of this. -/
namespace Keystroke.Text

/-- The size of a block, and of the buffer at first, in bytes. -/
def blockSize : Nat := 128

/-- The character that stands for bytes that are none. -/
def replacement : Char := '\ufffd'

def textBytes (cs : List Char) : List Nat :=
  (String.ofList cs).toUTF8.toList.map UInt8.toNat

/-- The number of bytes of the character that a byte begins; 0 for a byte that begins none. -/
def leadSize (byte : Nat) : Nat :=
  if byte < 0x80 then 1
  else if byte < 0xC2 then 0
  else if byte < 0xE0 then 2
  else if byte < 0xF0 then 3
  else if byte < 0xF5 then 4
  else 0

/-- The code point in the bytes of one character. -/
def joinBytes (lead : Nat) (others : List Nat) : Nat :=
  let top := if others.isEmpty then lead else lead % Nat.pow 2 (6 - others.length)
  others.foldl (fun code byte => code * 64 + byte % 64) top

/-- The character at the head of some bytes and its size. Bytes that are not a whole character give
replacement characters one by one. -/
def readChar (lead : Nat) (rest : List Nat) : Char × Nat :=
  let size := leadSize lead
  let others := rest.take (size - 1)
  let code := joinBytes lead others
  let least := if size = 3 then 0x800 else if size = 4 then 0x10000 else 0
  if size ≠ 0 && others.length + 1 == size && others.all (fun byte => 0x80 ≤ byte && byte < 0xC0)
      && least ≤ code && code.isValidChar then (Char.ofNat code, size)
  else (replacement, 1)

/-- What became of one block: the characters written, the bytes taken, and whether one did not fit. -/
structure Pass where
  written : List Char
  used : Nat
  isShort : Bool

def Pass.size (pass : Pass) : Nat :=
  (textBytes pass.written).length

/-- Lower-cases a block into the room that is left. A replacement character counts as one byte taken, also if
it stands in the text itself. `fuel` bounds the number of characters. -/
def lowerPass : Nat → Nat → List Nat → Pass
  | 0, _, _ => ⟨[], 0, false⟩
  | _, _, [] => ⟨[], 0, false⟩
  | fuel + 1, room, lead :: rest =>
    let (c, size) := readChar lead rest
    let counted := if c = replacement then 1 else size
    let image := lowerChar c
    if room < image.utf8Size then ⟨[], counted, true⟩
    else
      let pass := lowerPass fuel (room - image.utf8Size) (rest.drop (size - 1))
      ⟨image :: pass.written, counted + pass.used, pass.isShort⟩

/-- The next size of a full buffer. -/
def grownCapacity (capacity : Nat) : Nat :=
  if capacity ≤ 256 then 2 * capacity else capacity + capacity / 2

/-- Lower-cases the bytes that follow the first changed block. The buffer holds `size` bytes so far. -/
def lowerRest : Nat → Nat → Nat → List Nat → List Char
  | 0, _, _, _ => []
  | fuel + 1, capacity, size, bytes =>
    let pass := lowerPass blockSize (capacity - size) (bytes.take blockSize)
    let rest := bytes.drop pass.used
    if rest.isEmpty && !pass.isShort then pass.written
    else
      let isFull := pass.isShort && pass.written.isEmpty
      pass.written
        ++ lowerRest fuel (if isFull then grownCapacity capacity else capacity) (size + pass.size) rest

/-- Lower-cases bytes of which `position` have gone before unchanged, out of `total`. The first block that
changes decides how large the buffer is from then on. -/
def lowerFrom (total : Nat) : Nat → Nat → List Nat → List Char
  | 0, _, _ => []
  | fuel + 1, position, bytes =>
    let pass := lowerPass blockSize blockSize (bytes.take blockSize)
    let rest := bytes.drop pass.used
    if rest.isEmpty && !pass.isShort then pass.written
    else if !pass.isShort && textBytes pass.written == bytes.take pass.used then
      pass.written ++ lowerFrom total fuel (position + pass.used) rest
    else
      let size := position + pass.size
      let capacity :=
        if position ≠ 0 && blockSize < size then total + pass.size - pass.used else blockSize
      pass.written ++ lowerRest (rest.length + 1) capacity size rest

/-- A text that fits into one block, as does its image, and that holds no replacement character. -/
def fitsBlock (cs : List Char) : Bool :=
  (String.ofList cs).utf8ByteSize ≤ blockSize && (String.ofList (lower cs)).utf8ByteSize ≤ blockSize
    && !cs.contains replacement

def lowerInBlocks (cs : List Char) : List Char :=
  if fitsBlock cs then lower cs
  else
    let bytes := textBytes cs
    lowerFrom bytes.length (bytes.length + 1) 0 bytes

end Keystroke.Text
