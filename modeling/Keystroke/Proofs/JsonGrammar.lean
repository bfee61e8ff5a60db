import Keystroke.Dump.Json
import Mathlib.Data.List.Basic
import Mathlib.Data.List.TakeDrop

/-! The grammar of JSON texts, and a reader for all of them. What the grammar derives is read as it is derived,
so that a text stands for one value at most. -/
namespace Keystroke.Dump.Json

/-- What a text stands for. Numbers are kept as they are written. -/
inductive Value where
  | null
  | bool (value : Bool)
  | number (text : String)
  | string (text : String)
  | array (items : List Value)
  | object (members : List (String × Value))

section Grammar

def isSpace (c : Char) : Bool :=
  [' ', '\t', '\n', '\r'].contains c

/-- The characters after a backslash that stand for one character. -/
def escapes : List (Char × Char) :=
  [('"', '"'), ('\\', '\\'), ('/', '/'), ('b', '\x08'), ('f', '\x0c'), ('n', '\n'), ('r', '\r'), ('t', '\t')]

def hex? (c : Char) : Option Nat :=
  if c.isDigit then some (c.toNat - '0'.toNat)
  else if 'a' ≤ c ∧ c ≤ 'f' then some (c.toNat - 'a'.toNat + 10)
  else if 'A' ≤ c ∧ c ≤ 'F' then some (c.toNat - 'A'.toNat + 10)
  else none

/-- The number that four hexadecimal digits stand for. -/
def unit? : List Char → Option Nat
  | [a, b, c, d] => do
    let a ← hex? a
    let b ← hex? b
    let c ← hex? c
    let d ← hex? d
    return ((16 * a + b) * 16 + c) * 16 + d
  | _ => none

def isHigh (n : Nat) : Bool :=
  0xD800 ≤ n && n < 0xDC00

def isLow (n : Nat) : Bool :=
  0xDC00 ≤ n && n < 0xE000

/-- The character that a pair of surrogates stands for. -/
def joined (high low : Nat) : Char :=
  Char.ofNat (0x10000 + 0x400 * (high - 0xD800) + (low - 0xDC00))

/-- One character of a string. A surrogate never stands alone. -/
inductive IsChar : List Char → Char → Prop
  | plain {c : Char} : c ≠ '"' → c ≠ '\\' → 0x20 ≤ c.toNat → IsChar [c] c
  | escape {c d : Char} : escapes.lookup c = some d → IsChar ['\\', c] d
  | unit {ds : List Char} {n : Nat} : unit? ds = some n → isHigh n = false → isLow n = false →
    IsChar ('\\' :: 'u' :: ds) (Char.ofNat n)
  | pair {ds es : List Char} {high low : Nat} : unit? ds = some high → isHigh high → unit? es = some low → isLow low →
    IsChar ('\\' :: 'u' :: (ds ++ '\\' :: 'u' :: es)) (joined high low)

inductive IsBody : List Char → List Char → Prop
  | nil : IsBody [] []
  | cons {cs rest s : List Char} {c : Char} : IsChar cs c → IsBody rest s → IsBody (cs ++ rest) (c :: s)

inductive IsString : List Char → String → Prop
  | mk {cs s : List Char} : IsBody cs s → IsString ('"' :: (cs ++ ['"'])) (String.ofList s)

/-- Nothing, or an exponent. -/
def isExponent : List Char → Bool
  | [] => true
  | c :: rest =>
    let digits := if rest.head? = some '+' ∨ rest.head? = some '-' then rest.drop 1 else rest
    (c = 'e' || c = 'E') && !digits.isEmpty && digits.all Char.isDigit

/-- What can follow the whole part of a number. -/
def isFraction : List Char → Bool
  | [] => true
  | c :: rest =>
    if c = '.' then !(rest.takeWhile Char.isDigit).isEmpty && isExponent (rest.dropWhile Char.isDigit)
    else isExponent (c :: rest)

/-- A number without its sign. Only a zero that stands alone begins the whole part. -/
def isUnsigned (cs : List Char) : Bool :=
  let whole := cs.takeWhile Char.isDigit
  !whole.isEmpty && (whole.length = 1 || whole.head? ≠ some '0') && isFraction (cs.dropWhile Char.isDigit)

def isNumber (cs : List Char) : Bool :=
  isUnsigned (if cs.head? = some '-' then cs.drop 1 else cs)

/-- The words among the values. -/
def words : List (List Char × Value) :=
  [(['n', 'u', 'l', 'l'], .null), (['t', 'r', 'u', 'e'], .bool true), (['f', 'a', 'l', 's', 'e'], .bool false)]

variable {α : Type}

/-- A text with white space around it. -/
inductive Padded (P : List Char → α → Prop) : List Char → α → Prop
  | mk {before cs after : List Char} {a : α} : before.all isSpace → P cs a → after.all isSpace →
    Padded P (before ++ (cs ++ after)) a

/-- Texts with commas between them. -/
inductive Listed (P : List Char → α → Prop) : List Char → List α → Prop
  | last {cs : List Char} {a : α} : P cs a → Listed P cs [a]
  | more {cs rest : List Char} {a : α} {as : List α} : P cs a → Listed P rest as →
    Listed P (cs ++ ',' :: rest) (a :: as)

inductive IsMember (P : List Char → Value → Prop) : List Char → String × Value → Prop
  | mk {cs rest : List Char} {name : String} {v : Value} : Padded IsString cs name → Padded P rest v →
    IsMember P (cs ++ ':' :: rest) (name, v)

inductive IsValue : List Char → Value → Prop
  | word {cs : List Char} {v : Value} : (cs, v) ∈ words → IsValue cs v
  | number {cs : List Char} : isNumber cs → IsValue cs (.number (String.ofList cs))
  | string {cs : List Char} {s : String} : IsString cs s → IsValue cs (.string s)
  | emptyArray {cs : List Char} : cs.all isSpace → IsValue ('[' :: (cs ++ [']'])) (.array [])
  | array {cs : List Char} {items : List Value} : Listed (Padded IsValue) cs items →
    IsValue ('[' :: (cs ++ [']'])) (.array items)
  | emptyObject {cs : List Char} : cs.all isSpace → IsValue ('\x7b' :: (cs ++ ['\x7d'])) (.object [])
  | object {cs : List Char} {members : List (String × Value)} : Listed (IsMember IsValue) cs members →
    IsValue ('\x7b' :: (cs ++ ['\x7d'])) (.object members)

/-- A whole text. -/
abbrev IsText : List Char → Value → Prop :=
  Padded IsValue

end Grammar

section Reader

/-- Takes a value off the front of characters. -/
abbrev Reader (α : Type) := List Char → Option (α × List Char)

def readUnit : Reader Nat := fun cs =>
  (unit? (cs.take 4)).map (·, cs.drop 4)

/-- Reads what follows a surrogate. -/
def readLow (high : Nat) : Reader Char
  | '\\' :: 'u' :: cs =>
    match readUnit cs with
    | some (low, rest) => if isHigh high && isLow low then some (joined high low, rest) else none
    | none => none
  | _ => none

def readEscape : Reader Char
  | [] => none
  | c :: cs =>
    if c = 'u' then
      match readUnit cs with
      | some (n, rest) => if isHigh n || isLow n then readLow n rest else some (Char.ofNat n, rest)
      | none => none
    else (escapes.lookup c).map (·, cs)

def readChar : Reader Char
  | [] => none
  | c :: cs =>
    if c = '\\' then readEscape cs
    else if c = '"' || c.toNat < 0x20 then none
    else some (c, cs)

/-- Reads the characters of a string up to its end, less than `n` of them. -/
def readBody : Nat → Reader (List Char)
  | 0, _ => none
  | _ + 1, [] => none
  | n + 1, c :: cs =>
    if c = '"' then some ([], cs)
    else
      match readChar (c :: cs) with
      | none => none
      | some (d, rest) => (readBody n rest).map fun out => (d :: out.1, out.2)

def readString (n : Nat) : Reader String
  | [] => none
  | c :: cs => if c = '"' then (readBody n cs).map fun out => (String.ofList out.1, out.2) else none

def isNumberChar (c : Char) : Bool :=
  c.isDigit || ['+', '-', '.', 'e', 'E'].contains c

def readNumber : Reader Value := fun cs =>
  let text := cs.takeWhile isNumberChar
  if isNumber text then some (.number (String.ofList text), cs.dropWhile isNumberChar) else none

def readWord : Reader Value := fun cs =>
  words.findSome? fun word => if word.1.isPrefixOf cs then some (word.2, cs.drop word.1.length) else none

variable {α : Type}

def readPadded (reader : Reader α) : Reader α := fun cs =>
  (reader (cs.dropWhile isSpace)).map fun out => (out.1, out.2.dropWhile isSpace)

/-- Reads items and the bracket behind them, less than `n` items. -/
def readList (item : Reader α) (close : Char) : Nat → Reader (List α)
  | 0, _ => none
  | n + 1, cs =>
    match item cs with
    | some (a, c :: rest) =>
      if c = ',' then (readList item close n rest).map fun out => (a :: out.1, out.2)
      else if c = close then some ([a], rest)
      else none
    | _ => none

def readEnclosed (item : Reader α) (close : Char) (n : Nat) : Reader (List α) := fun cs =>
  if (cs.dropWhile isSpace).head? = some close then some ([], (cs.dropWhile isSpace).drop 1)
  else readList item close n cs

def readMember (n : Nat) (value : Reader Value) : Reader (String × Value) := fun cs =>
  match readPadded (readString n) cs with
  | some (name, ':' :: rest) => (readPadded value rest).map fun out => ((name, out.1), out.2)
  | _ => none

/-- Reads a value of less than `n` characters. -/
def readValue : Nat → Reader Value
  | 0, _ => none
  | _ + 1, [] => none
  | n + 1, c :: cs =>
    if c = '"' then (readString n (c :: cs)).map fun out => (.string out.1, out.2)
    else if c = '[' then
      (readEnclosed (readPadded (readValue n)) ']' n cs).map fun out => (.array out.1, out.2)
    else if c = '\x7b' then
      (readEnclosed (readMember n (readValue n)) '\x7d' n cs).map fun out => (.object out.1, out.2)
    else if isNumberChar c then readNumber (c :: cs)
    else readWord (c :: cs)

/-- The value that a text stands for. -/
def parse? (cs : List Char) : Option Value :=
  match readPadded (readValue (cs.length + 1)) cs with
  | some (v, []) => some v
  | _ => none

end Reader

section Strings

theorem readUnit_append {ds : List Char} {n : Nat} (h : unit? ds = some n) (rest : List Char) :
    readUnit (ds ++ rest) = some (n, rest) := by
  have hlength : ds.length = 4 := by
    unfold unit? at h
    split at h
    · rfl
    · cases h
  rw [readUnit, List.take_left' hlength, List.drop_left' hlength, h]
  rfl

theorem readChar_append {cs : List Char} {c : Char} (h : IsChar cs c) (rest : List Char) :
    readChar (cs ++ rest) = some (c, rest) := by
  cases h with
  | plain hquote hslash hcontrol =>
    have hrefused : (c = '"' || c.toNat < 0x20) = false := by simpa [hquote] using hcontrol
    simp only [List.singleton_append, readChar, if_neg hslash, hrefused, Bool.false_eq_true, if_false]
  | @escape e _ he =>
    have hne : e ≠ 'u' := by
      rintro rfl
      cases he
    simp [readChar, readEscape, hne, he]
  | unit hn hhigh hlow =>
    simp [readChar, readEscape, readUnit_append hn, hhigh, hlow]
  | pair hhigh hs hlow hs' =>
    have hread := readUnit_append hhigh
    simp [readChar, readEscape, hread, hs, readLow, readUnit_append hlow, hs']

theorem IsChar.starts {cs : List Char} {c : Char} (h : IsChar cs c) : ∃ d rest, cs = d :: rest ∧ d ≠ '"' := by
  cases h with
  | plain hquote _ _ => exact ⟨c, [], rfl, hquote⟩
  | escape _ => exact ⟨'\\', _, rfl, by decide⟩
  | unit _ _ _ => exact ⟨'\\', _, rfl, by decide⟩
  | pair _ _ _ _ => exact ⟨'\\', _, rfl, by decide⟩

/-- A string has fewer characters than its text, so the length of the text bounds them. -/
theorem readBody_append {cs s : List Char} (h : IsBody cs s) {n : Nat} (hn : cs.length < n) (rest : List Char) :
    readBody n (cs ++ '"' :: rest) = some (s, rest) := by
  induction h generalizing n with
  | nil =>
    obtain ⟨n, rfl⟩ := Nat.exists_eq_succ_of_ne_zero (Nat.ne_zero_of_lt hn)
    rfl
  | @cons cs cs' s c hc _ ih =>
    obtain ⟨n, rfl⟩ := Nat.exists_eq_succ_of_ne_zero (Nat.ne_zero_of_lt hn)
    have hread := readChar_append hc (cs' ++ '"' :: rest)
    obtain ⟨d, ds, rfl, hd⟩ := hc.starts
    have hshort : cs'.length < n := by
      simp only [List.length_append, List.length_cons] at hn
      omega
    rw [List.cons_append] at hread
    rw [List.append_assoc, List.cons_append, readBody, if_neg hd, hread]
    simp only [ih hshort, Option.map_some]

theorem readString_append {cs : List Char} {s : String} (h : IsString cs s) {n : Nat} (hn : cs.length ≤ n)
    (rest : List Char) : readString n (cs ++ rest) = some (s, rest) := by
  cases h with
  | @mk cs s hbody =>
    have hshort : cs.length < n := by
      simp only [List.length_cons, List.length_append, List.length_nil] at hn
      omega
    have hread := readBody_append hbody hshort rest
    simp [readString, hread]

end Strings

section Numbers

theorem isNumberChar_of_isDigit {c : Char} (h : c.isDigit) : isNumberChar c := by
  rw [isNumberChar, h, Bool.true_or]

theorem all_isNumberChar_of_isDigit {cs : List Char} (h : cs.all Char.isDigit) : cs.all isNumberChar := by
  rw [List.all_eq_true] at h ⊢
  exact fun c hc => isNumberChar_of_isDigit (h c hc)

theorem all_of_dropWhile {cs : List Char} (h : (cs.dropWhile Char.isDigit).all isNumberChar) : cs.all isNumberChar := by
  have hdigits : (cs.takeWhile Char.isDigit).all isNumberChar := all_isNumberChar_of_isDigit (by simp)
  rw [← List.takeWhile_append_dropWhile (p := Char.isDigit) (l := cs), List.all_append, hdigits, h, Bool.true_and]

theorem all_of_isExponent {cs : List Char} (h : isExponent cs) : cs.all isNumberChar := by
  cases cs with
  | nil => rfl
  | cons c rest =>
    simp only [isExponent, Bool.and_eq_true, Bool.or_eq_true, decide_eq_true_eq] at h
    obtain ⟨⟨hc, -⟩, hdigits⟩ := h
    have hmark : isNumberChar c := by rcases hc with rfl | rfl <;> decide
    have hrest : rest.all isNumberChar := by
      split_ifs at hdigits with hsign
      · cases rest with
        | nil => rfl
        | cons d rest =>
          have hd : isNumberChar d := by
            rcases hsign with hsign | hsign <;> cases hsign <;> decide
          simpa [hd] using all_isNumberChar_of_isDigit hdigits
      · exact all_isNumberChar_of_isDigit hdigits
    rw [List.all_cons, hmark, hrest, Bool.true_and]

theorem all_of_isFraction {cs : List Char} (h : isFraction cs) : cs.all isNumberChar := by
  cases cs with
  | nil => rfl
  | cons c rest =>
    rw [isFraction] at h
    split_ifs at h with hc
    · rw [Bool.and_eq_true] at h
      have hrest := all_of_dropWhile (all_of_isExponent h.2)
      rw [List.all_cons, hc, hrest]
      rfl
    · exact all_of_isExponent h

theorem all_of_isUnsigned {cs : List Char} (h : isUnsigned cs) : cs.all isNumberChar := by
  simp only [isUnsigned, Bool.and_eq_true] at h
  exact all_of_dropWhile (all_of_isFraction h.2)

theorem all_of_isNumber {cs : List Char} (h : isNumber cs) : cs.all isNumberChar := by
  cases cs with
  | nil => rfl
  | cons c rest =>
    simp only [isNumber, List.head?_cons, Option.some.injEq] at h
    split_ifs at h with hc
    · have hrest : rest.all isNumberChar := all_of_isUnsigned h
      rw [List.all_cons, hc, hrest]
      rfl
    · exact all_of_isUnsigned h

end Numbers

section Values

/-- The characters do not begin with one of a class. -/
def Stops (p : Char → Bool) (rest : List Char) : Prop :=
  ∀ c, rest.head? = some c → p c = false

theorem stops_nil (p : Char → Bool) : Stops p [] := by
  intro c h
  cases h

theorem stops_cons {p : Char → Bool} {c : Char} (h : p c = false) (rest : List Char) : Stops p (c :: rest) := by
  intro d hd
  cases hd
  exact h

theorem Stops.takeWhile_append {p : Char → Bool} {cs rest : List Char} (h : Stops p rest) (hcs : cs.all p) :
    (cs ++ rest).takeWhile p = cs := by
  rw [List.takeWhile_append_of_pos (List.all_eq_true.mp hcs)]
  cases rest with
  | nil => simp
  | cons c rest => simp [h c rfl]

theorem Stops.dropWhile_append {p : Char → Bool} {cs rest : List Char} (h : Stops p rest) (hcs : cs.all p) :
    (cs ++ rest).dropWhile p = rest := by
  rw [List.dropWhile_append_of_pos (List.all_eq_true.mp hcs)]
  cases rest with
  | nil => rfl
  | cons c rest => simp [h c rfl]

theorem isNumberChar_of_isSpace {c : Char} (h : isSpace c) : isNumberChar c = false := by
  simp only [isSpace, List.contains_iff_mem, List.mem_cons, List.not_mem_nil, or_false] at h
  rcases h with rfl | rfl | rfl | rfl <;> decide

/-- White space ends a number as well as what stands behind the white space. -/
theorem Stops.space_append {cs rest : List Char} (h : Stops isNumberChar rest) (hcs : cs.all isSpace) :
    Stops isNumberChar (cs ++ rest) := by
  cases cs with
  | nil => exact h
  | cons c cs =>
    rw [List.all_cons, Bool.and_eq_true] at hcs
    exact stops_cons (isNumberChar_of_isSpace hcs.1) _

theorem readNumber_append {cs : List Char} (h : isNumber cs) {rest : List Char} (hrest : Stops isNumberChar rest) :
    readNumber (cs ++ rest) = some (.number (String.ofList cs), rest) := by
  have hall := all_of_isNumber h
  simp only [readNumber, hrest.takeWhile_append hall, hrest.dropWhile_append hall, h, if_true]

theorem readWord_append {cs : List Char} {v : Value} (h : (cs, v) ∈ words) (rest : List Char) :
    readWord (cs ++ rest) = some (v, rest) := by
  simp only [words, List.mem_cons, Prod.mk.injEq, List.not_mem_nil, or_false] at h
  rcases h with ⟨rfl, rfl⟩ | ⟨rfl, rfl⟩ | ⟨rfl, rfl⟩ <;> simp [readWord, words]

/-- A value begins with a character that neither is white space nor ends a list. -/
theorem IsValue.starts {cs : List Char} {v : Value} (h : IsValue cs v) :
    ∃ c rest, cs = c :: rest ∧ isSpace c = false ∧ c ≠ ']' := by
  cases h with
  | word hw =>
    simp only [words, List.mem_cons, Prod.mk.injEq, List.not_mem_nil, or_false] at hw
    rcases hw with ⟨rfl, -⟩ | ⟨rfl, -⟩ | ⟨rfl, -⟩ <;> exact ⟨_, _, rfl, by decide, by decide⟩
  | number hn =>
    cases cs with
    | nil => cases hn
    | cons c rest =>
      have hc : isNumberChar c := by
        have hall := all_of_isNumber hn
        rw [List.all_cons, Bool.and_eq_true] at hall
        exact hall.1
      refine ⟨c, rest, rfl, ?_, ?_⟩
      · by_contra hspace
        rw [isNumberChar_of_isSpace (Bool.not_eq_false _ ▸ hspace)] at hc
        cases hc
      · rintro rfl
        cases hc
  | string hs =>
    cases hs
    exact ⟨'"', _, rfl, by decide, by decide⟩
  | emptyArray _ => exact ⟨'[', _, rfl, by decide, by decide⟩
  | array _ => exact ⟨'[', _, rfl, by decide, by decide⟩
  | emptyObject _ => exact ⟨'\x7b', _, rfl, by decide, by decide⟩
  | object _ => exact ⟨'\x7b', _, rfl, by decide, by decide⟩

end Values

section Lists

variable {α : Type} {P : List Char → α → Prop} {cs : List Char} {a : α} {as : List α}

/-- What stands behind an item of a list: neither more of a number nor white space. -/
structure Closed (rest : List Char) : Prop where
  number : Stops isNumberChar rest
  space : Stops isSpace rest

theorem closed_cons {c : Char} (hnumber : isNumberChar c = false) (hspace : isSpace c = false) (rest : List Char) :
    Closed (c :: rest) :=
  ⟨stops_cons hnumber rest, stops_cons hspace rest⟩

/-- The first character behind white space is not `close`. -/
def Opens (close : Char) (cs : List Char) : Prop :=
  ∃ before c rest, cs = before ++ c :: rest ∧ before.all isSpace ∧ isSpace c = false ∧ c ≠ close

theorem Opens.head_dropWhile {close : Char} (h : Opens close cs) (rest : List Char) :
    ((cs ++ rest).dropWhile isSpace).head? ≠ some close := by
  obtain ⟨before, c, behind, rfl, hbefore, hspace, hne⟩ := h
  rw [List.append_assoc, List.cons_append, (stops_cons hspace _).dropWhile_append hbefore, List.head?_cons]
  exact fun he => hne (Option.some.inj he)

theorem Opens.append {close : Char} (h : Opens close cs) (rest : List Char) : Opens close (cs ++ rest) := by
  obtain ⟨before, c, behind, rfl, hbefore, hspace, hne⟩ := h
  exact ⟨before, c, behind ++ rest, by simp, hbefore, hspace, hne⟩

theorem Padded.opens {close : Char} (h : Padded P cs a)
    (hstart : ∀ text, P text a → ∃ c rest, text = c :: rest ∧ isSpace c = false ∧ c ≠ close) : Opens close cs := by
  obtain ⟨hbefore, htext, -⟩ := h
  obtain ⟨c, rest, rfl, hspace, hne⟩ := hstart _ htext
  exact ⟨_, c, _, rfl, hbefore, hspace, hne⟩

theorem Listed.opens {close : Char} (h : Listed P cs as) (hitem : ∀ text a, P text a → Opens close text) :
    Opens close cs := by
  cases h with
  | last ha => exact hitem _ _ ha
  | more ha _ => exact (hitem _ _ ha).append _

theorem readPadded_append {reader : Reader α} (h : Padded P cs a)
    (hstart : ∀ text, P text a → ∃ c rest, text = c :: rest ∧ isSpace c = false)
    (hread : ∀ text, P text a → text.length ≤ cs.length → ∀ rest, Stops isNumberChar rest →
      reader (text ++ rest) = some (a, rest)) {rest : List Char} (hrest : Closed rest) :
    readPadded reader (cs ++ rest) = some (a, rest) := by
  cases h with
  | @mk before text after _ hbefore htext hafter =>
    have hfirst : Stops isSpace (text ++ (after ++ rest)) := by
      obtain ⟨c, behind, rfl, hspace⟩ := hstart text htext
      exact stops_cons hspace _
    have hlength : text.length ≤ (before ++ (text ++ after)).length := by
      simp only [List.length_append]
      omega
    have hvalue := hread text htext hlength (after ++ rest) (hrest.number.space_append hafter)
    rw [readPadded, List.append_assoc, List.append_assoc, hfirst.dropWhile_append hbefore, hvalue, Option.map_some,
      hrest.space.dropWhile_append hafter]

theorem readList_append {item : Reader α} {close : Char} (h : Listed P cs as) (hne : close ≠ ',')
    (hclose : ∀ rest, Closed (close :: rest)) {n : Nat} (hn : cs.length < n)
    (hitem : ∀ text a, P text a → text.length ≤ cs.length → ∀ rest, Closed rest →
      item (text ++ rest) = some (a, rest)) (rest : List Char) :
    readList item close n (cs ++ close :: rest) = some (as, rest) := by
  -- Each item takes a character at least, the comma or bracket behind it, so that the length bounds their number.
  induction h generalizing n with
  | @last cs a ha =>
    obtain ⟨n, rfl⟩ := Nat.exists_eq_succ_of_ne_zero (Nat.ne_zero_of_lt hn)
    have hread := hitem cs a ha (Nat.le_refl _) (close :: rest) (hclose rest)
    simp only [readList, hread, if_neg hne, if_true]
  | @more cs behind a as ha _ ih =>
    obtain ⟨n, rfl⟩ := Nat.exists_eq_succ_of_ne_zero (Nat.ne_zero_of_lt hn)
    simp only [List.length_append, List.length_cons] at hn hitem
    have hcomma : Closed (',' :: (behind ++ close :: rest)) := closed_cons (by decide) (by decide) _
    have hread := hitem cs a ha (by omega) _ hcomma
    have hrest := ih (n := n) (by omega) fun text a hp hlength => hitem text a hp (by omega)
    simp only [List.append_assoc, List.cons_append, readList, hread, if_true, hrest, Option.map_some]

theorem readEnclosed_space {item : Reader α} {close : Char} (hspace : isSpace close = false) (n : Nat)
    (hcs : cs.all isSpace) (rest : List Char) : readEnclosed item close n (cs ++ close :: rest) = some ([], rest) := by
  have hdrop : (cs ++ close :: rest).dropWhile isSpace = close :: rest :=
    (stops_cons hspace rest).dropWhile_append hcs
  simp only [readEnclosed, hdrop, List.head?_cons, if_true, List.drop_one, List.tail_cons]

theorem readEnclosed_listed {item : Reader α} {close : Char} (hopens : Opens close cs) (n : Nat) (rest : List Char) :
    readEnclosed item close n (cs ++ rest) = readList item close n (cs ++ rest) := by
  rw [readEnclosed, if_neg (hopens.head_dropWhile rest)]

end Lists

section Values

theorem IsString.starts {cs : List Char} {s : String} (h : IsString cs s) : ∃ rest, cs = '"' :: rest := by
  cases h
  exact ⟨_, rfl⟩

theorem IsMember.opens {P : List Char → Value → Prop} {cs : List Char} {m : String × Value} (h : IsMember P cs m) :
    Opens '\x7d' cs := by
  obtain ⟨hname, -⟩ := h
  apply Opens.append
  apply hname.opens
  intro text htext
  obtain ⟨rest, rfl⟩ := htext.starts
  exact ⟨'"', rest, rfl, by decide, by decide⟩

theorem readMember_append {P : List Char → Value → Prop} {cs : List Char} {m : String × Value} (h : IsMember P cs m)
    {n : Nat} (hn : cs.length ≤ n) {value : Reader Value}
    (hvalue : ∀ text v, Padded P text v → text.length ≤ cs.length → ∀ rest, Closed rest →
      readPadded value (text ++ rest) = some (v, rest)) {rest : List Char} (hrest : Closed rest) :
    readMember n value (cs ++ rest) = some (m, rest) := by
  cases h with
  | @mk cs behind name v hname hv =>
    simp only [List.length_append, List.length_cons] at hn hvalue
    have hcolon : Closed (':' :: (behind ++ rest)) := closed_cons (by decide) (by decide) _
    have hread : readPadded (readString n) (cs ++ ':' :: (behind ++ rest)) = some (name, ':' :: (behind ++ rest)) := by
      apply readPadded_append hname _ _ hcolon
      · intro text htext
        obtain ⟨rest, rfl⟩ := htext.starts
        exact ⟨'"', rest, rfl, by decide⟩
      · intro text htext hlength rest _
        exact readString_append htext (by omega) rest
    have hread' := hvalue behind v hv (by omega) rest hrest
    simp only [readMember, List.append_assoc, List.cons_append, hread, hread', Option.map_some]

theorem readValue_append {cs : List Char} {v : Value} (h : IsValue cs v) {n : Nat} (hn : cs.length < n)
    {rest : List Char} (hrest : Stops isNumberChar rest) : readValue n (cs ++ rest) = some (v, rest) := by
  -- The induction is on the bound, which drops with each level of brackets as the text gets shorter.
  induction n generalizing cs v rest with
  | zero => omega
  | succ n ih =>
    have hpadded (text : List Char) (v : Value) (hv : Padded IsValue text v) (hlength : text.length < n)
        (rest : List Char) (hrest : Closed rest) : readPadded (readValue n) (text ++ rest) = some (v, rest) := by
      apply readPadded_append hv _ _ hrest
      · intro text htext
        obtain ⟨c, rest, rfl, hspace, -⟩ := htext.starts
        exact ⟨c, rest, rfl, hspace⟩
      · intro text htext hle rest hrest
        exact ih htext (by omega) hrest
    have hbracket : ∀ rest, Closed (']' :: rest) := closed_cons (by decide) (by decide)
    have hbrace : ∀ rest, Closed ('\x7d' :: rest) := closed_cons (by decide) (by decide)
    cases h with
    | word hw =>
      have hread := readWord_append hw rest
      simp only [words, List.mem_cons, Prod.mk.injEq, List.not_mem_nil, or_false] at hw
      rcases hw with ⟨rfl, rfl⟩ | ⟨rfl, rfl⟩ | ⟨rfl, rfl⟩ <;> exact hread
    | number hnumber =>
      have hread := readNumber_append hnumber hrest
      have hall := all_of_isNumber hnumber
      cases cs with
      | nil => cases hnumber
      | cons c cs =>
        rw [List.all_cons, Bool.and_eq_true] at hall
        -- The quote and the brackets are tried first; no number starts with one.
        have hne (d : Char) (hd : isNumberChar d = false) : c ≠ d := by
          rintro rfl
          rw [hd] at hall
          cases hall.1
        rw [List.cons_append] at hread ⊢
        rw [readValue, if_neg (hne _ (by decide)), if_neg (hne _ (by decide)), if_neg (hne _ (by decide)),
          if_pos hall.1, hread]
    | string hs =>
      have hread := readString_append hs (n := n) (by omega) rest
      obtain ⟨behind, rfl⟩ := hs.starts
      rw [List.cons_append] at hread ⊢
      simp only [readValue, if_true, hread, Option.map_some]
    | @emptyArray cs hcs =>
      have hread : readEnclosed (readPadded (readValue n)) ']' n (cs ++ ']' :: rest) = some ([], rest) :=
        readEnclosed_space (by decide) n hcs rest
      simp [readValue, hread]
    | @array cs items hlisted =>
      simp only [List.length_cons, List.length_append, List.length_nil] at hn
      have hopens : Opens ']' cs := hlisted.opens fun text v hv => hv.opens fun _ htext => htext.starts
      have hread : readList (readPadded (readValue n)) ']' n (cs ++ ']' :: rest) = some (items, rest) := by
        apply readList_append hlisted (by decide) hbracket (by omega)
        intro text v hv hlength rest hrest
        exact hpadded text v hv (by omega) rest hrest
      rw [← readEnclosed_listed hopens] at hread
      simp [readValue, hread]
    | @emptyObject cs hcs =>
      have hread : readEnclosed (readMember n (readValue n)) '\x7d' n (cs ++ '\x7d' :: rest) = some ([], rest) :=
        readEnclosed_space (by decide) n hcs rest
      simp [readValue, hread]
    | @object cs members hlisted =>
      simp only [List.length_cons, List.length_append, List.length_nil] at hn
      have hopens : Opens '\x7d' cs := hlisted.opens fun text m hm => hm.opens
      have hread : readList (readMember n (readValue n)) '\x7d' n (cs ++ '\x7d' :: rest) = some (members, rest) := by
        apply readList_append hlisted (by decide) hbrace (by omega)
        intro text m hm hlength rest hrest
        apply readMember_append hm (by omega) _ hrest
        intro inner v hv hshort
        exact hpadded inner v hv (by omega)
      rw [← readEnclosed_listed hopens] at hread
      simp [readValue, hread]

theorem parse_of_isText {cs : List Char} {v : Value} (h : IsText cs v) : parse? cs = some v := by
  have hread : readPadded (readValue (cs.length + 1)) (cs ++ []) = some (v, []) := by
    apply readPadded_append h
    · intro text htext
      obtain ⟨c, rest, rfl, hspace, -⟩ := htext.starts
      exact ⟨c, rest, rfl, hspace⟩
    · intro text htext hlength rest hrest
      exact readValue_append htext (by omega) hrest
    · exact ⟨stops_nil _, stops_nil _⟩
  rw [List.append_nil] at hread
  rw [parse?, hread]

end Values

end Keystroke.Dump.Json
