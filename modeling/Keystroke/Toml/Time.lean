import Keystroke.Number.Decimal

/-! Dates and times of day. -/
namespace Keystroke.Toml

/-- Takes a number of exactly `size` digits that satisfies `ok`. -/
def takeNumber? (size : Nat) (ok : Nat → Bool) (cs : List Char) : Option (Nat × List Char) :=
  let digits := cs.take size
  let value := Number.decimalValue digits
  if digits.length = size && digits.all Char.isDigit && ok value then some (value, cs.drop size) else none

def takeMark? (mark : Char) : List Char → Option (List Char)
  | c :: rest => if c = mark then some rest else none
  | [] => none

def daysIn (year month : Nat) : Nat :=
  if month = 2 then if year % 4 = 0 && (year % 100 ≠ 0 || year % 400 = 0) then 29 else 28
  else if [4, 6, 9, 11].contains month then 30 else 31

/-- Takes a date: year, month and day. -/
def takeDate? (cs : List Char) : Option (List Char) := do
  let (year, cs) ← takeNumber? 4 (fun _ => true) cs
  let (month, cs) ← takeNumber? 2 (fun n => 1 ≤ n && n ≤ 12) (← takeMark? '-' cs)
  let (_, cs) ← takeNumber? 2 (fun n => 1 ≤ n && n ≤ daysIn year month) (← takeMark? '-' cs)
  pure cs

/-- Drops a fraction of a second, if there is one. -/
def dropFraction : List Char → List Char
  | '.' :: d :: rest => if d.isDigit then rest.dropWhile Char.isDigit else '.' :: d :: rest
  | cs => cs

/-- Takes a time of day: hour, minute and second with or without a fraction. -/
def takeClock? (cs : List Char) : Option (List Char) := do
  let (_, cs) ← takeNumber? 2 (· < 24) cs
  let (_, cs) ← takeNumber? 2 (· < 60) (← takeMark? ':' cs)
  let (_, cs) ← takeNumber? 2 (· < 60) (← takeMark? ':' cs)
  pure (dropFraction cs)

def takeZone? : List Char → Option (List Char)
  | 'Z' :: rest => some rest
  | c :: rest =>
    if c = '+' || c = '-' then do
      let (_, cs) ← takeNumber? 2 (· ≤ 24) rest
      let (_, cs) ← takeNumber? 2 (· ≤ 60) (← takeMark? ':' cs)
      pure cs
    else none
  | [] => none

def takeDateTime? (cs : List Char) : Option (List Char) := do
  let cs ← takeDate? cs
  let cs ← takeClock? (← takeMark? 'T' cs)
  if cs.isEmpty then pure cs else takeZone? cs

/-- A date, a time of day, or both; `T` stands between them. -/
def isTime (cs : List Char) : Bool :=
  takeDate? cs == some [] || takeClock? cs == some [] || takeDateTime? cs == some []

/-- The marks of a time in capitals, with `T` for a blank. -/
def timeChar (c : Char) : Char :=
  if c = 'z' then 'Z' else if c = 't' || c = ' ' then 'T' else c

end Keystroke.Toml
