import Keystroke.Text.Letter
import Keystroke.Toml.Token

/-! Reading a document token by token. The text is read up to the first character that may not occur in
it; looking at that character is an error, whatever else is wrong there. -/
namespace Keystroke.Toml

/-- How a text ends: after its last character, or before one that may not occur. -/
inductive Ending where
  | complete
  | control (c : Char)

def isControl (c : Char) : Bool :=
  (c.toNat < 0x20 && c ≠ '\t' && c ≠ '\n' && c ≠ '\r') || c.toNat = 0x7F

/-- The characters before the first one that may not occur. A carriage return may occur only before a
line feed. -/
def admissible : List Char → List Char × Ending
  | [] => ([], .complete)
  | c :: rest =>
    if isControl c || (c = '\r' && rest.head? ≠ some '\n') then ([], .control c)
    else
      let (text, ending) := admissible rest
      (c :: text, ending)

/-- What is known of the whole text: how it ends, and the line of its last character. -/
structure Source where
  ending : Ending
  lastLine : Nat

def lastLine (cs : List Char) : Nat :=
  cs.count '\n' + (if cs.getLast? = some '\n' then 0 else 1)

structure ScanError where
  line : Nat
  cause : Cause

/-- The error of text that ends too early on line `line`; it shows on line `shown`. -/
def Source.ends (src : Source) (line shown : Nat) (cause : Cause) : ScanError :=
  match src.ending with
  | .complete => ⟨shown, cause⟩
  | .control c => ⟨line, .control c⟩

/-- The error of a look past the end of the text, if that is one. -/
def Source.fault? (src : Source) (line : Nat) (rest : List Char) : Option ScanError :=
  match rest, src.ending with
  | [], .control c => some ⟨line, .control c⟩
  | _, _ => none

def isBlank (c : Char) : Bool :=
  c = ' ' || c = '\t'

def isFeed (c : Char) : Bool :=
  c = '\n' || c = '\r'

def lineAfter (line : Nat) (c : Char) : Nat :=
  if c = '\n' then line + 1 else line

/-- The line before the one that follows a line end. -/
def lineBefore (line : Nat) (c : Char) : Nat :=
  lineAfter line c - 1

def isHexDigit (c : Char) : Bool :=
  c.isDigit || ('a' ≤ c && c ≤ 'f') || ('A' ≤ c && c ≤ 'F')

/-- What an escape still needs. -/
inductive Pending where
  | nothing
  | escape
  | hex (size left : Nat)

/-- What was read of a string, the text after it, and the line there. -/
structure Quoted where
  body : List Char
  rest : List Char
  line : Nat

/-- Reads a string in double quotes; `seen` holds its characters so far, last first. Of up to five quotes
in a row the last three end a string of lines. -/
def readBasic (src : Source) (form : StringForm) (line : Nat) (seen : List Char) :
    Pending → List Char → Except ScanError Quoted
  | .nothing, [] =>
    .error (src.ends line src.lastLine (.endOfText (if form = .basic then "'\"'" else "'\"\"\"'")))
  | .escape, [] => .error (src.ends line (line - 1) (.badEscape '\x00'))
  | .hex size _, [] => .error (src.ends line src.lastLine (.wantHexDigits size seen.reverse))
  | .escape, c :: rest =>
    if ['b', 't', 'n', 'f', 'r', '"', '\\', ' ', '\t'].contains c then
      readBasic src form line (c :: seen) .nothing rest
    else if form ≠ .basic && isFeed c then
      readBasic src form (lineAfter line c) (c :: seen) .nothing rest
    else if c = 'u' then readBasic src form line (c :: seen) (.hex 4 4) rest
    else if c = 'U' then readBasic src form line (c :: seen) (.hex 8 8) rest
    else .error ⟨lineAfter line c, .badEscape c⟩
  | .hex size left, c :: rest =>
    if isHexDigit c then
      readBasic src form line (c :: seen) (if left ≤ 1 then .nothing else .hex size (left - 1)) rest
    else .error ⟨lineAfter line c, .wantHexDigits size (c :: seen).reverse⟩
  | .nothing, c :: rest =>
    if c = '\\' then readBasic src form line (c :: seen) .escape rest
    else if form = .basic then
      if c = '"' then .ok ⟨seen.reverse, rest, line⟩
      else if isFeed c then .error ⟨lineBefore line c, .lineInString⟩
      else readBasic src form line (c :: seen) .nothing rest
    else if c = '"' && rest.take 2 == ['"', '"'] then
      if (rest.drop 2).head? == some '"' then
        if seen.take 2 == ['"', '"'] && (seen.drop 2).head? != some '\\' then
          .error ⟨line, .manyQuotes form⟩
        else readBasic src form line (c :: seen) .nothing rest
      else
        match src.fault? line (rest.drop 2) with
        | some error => .error error
        | none => .ok ⟨seen.reverse, rest.drop 2, line⟩
    else readBasic src form (lineAfter line c) (c :: seen) .nothing rest

def readRaw (src : Source) (form : StringForm) (line : Nat) (seen : List Char) :
    List Char → Except ScanError Quoted
  | [] =>
    .error (src.ends line src.lastLine (.endOfText (if form = .raw then "\"'\"" else "\"'''\"")))
  | c :: rest =>
    if form = .raw then
      if c = '\'' then .ok ⟨seen.reverse, rest, line⟩
      else if isFeed c then .error ⟨lineBefore line c, .lineInString⟩
      else readRaw src form line (c :: seen) rest
    else if c = '\'' && rest.take 2 == ['\'', '\''] then
      if (rest.drop 2).head? == some '\'' then
        if seen.take 2 == ['\'', '\''] then .error ⟨line, .manyQuotes form⟩
        else readRaw src form line (c :: seen) rest
      else
        match src.fault? line (rest.drop 2) with
        | some error => .error error
        | none => .ok ⟨seen.reverse, rest.drop 2, line⟩
    else readRaw src form (lineAfter line c) (c :: seen) rest

/-- A value that is a single token, the text after it, and the line there. -/
structure Scalar where
  token : Token
  rest : List Char
  line : Nat

/-- A token that goes as far as its characters do. -/
def Source.upTo (src : Source) (line : Nat) (token : Token) (rest : List Char) :
    Except ScanError Scalar :=
  match src.fault? line rest with
  | some error => .error error
  | none => .ok ⟨token, rest, line⟩

def readString (src : Source) (line : Nat) (quote : Char) (rest : List Char) :
    Except ScanError Scalar :=
  let read (single lines : StringForm)
      (reader : StringForm → List Char → Except ScanError Quoted) : Except ScanError Scalar :=
    let quoted (form : StringForm) (rest : List Char) : Except ScanError Scalar :=
      (reader form rest).map fun q => ⟨.string form q.body, q.rest, q.line⟩
    if rest.take 2 == [quote, quote] then quoted lines (rest.drop 2)
    else if rest == [quote] then src.upTo line (.string single []) []
    else quoted single rest
  if quote = '"' then
    read .basic .basicLines fun form rest => readBasic src form line [] .nothing rest
  else read .raw .rawLines fun form rest => readRaw src form line [] rest

/-- Reads on in a float. What it holds is checked later. -/
def readFloat (src : Source) (line : Nat) (head rest : List Char) : Except ScanError Scalar :=
  let isFloatChar (c : Char) := c.isDigit || ['_', '.', '-', '+', 'e', 'E'].contains c
  src.upTo line (.float (String.ofList (head ++ rest.takeWhile isFloatChar))) (rest.dropWhile isFloatChar)

def readDecimal (src : Source) (line : Nat) (head rest : List Char) : Except ScanError Scalar :=
  let isDecimalChar (c : Char) := c.isDigit || c = '_'
  let head := head ++ rest.takeWhile isDecimalChar
  match rest.dropWhile isDecimalChar with
  | [] => src.upTo line (.integer (String.ofList head)) []
  | c :: rest =>
    if ['.', 'e', 'E'].contains c then readFloat src line (head ++ [c]) rest
    else .ok ⟨.integer (String.ofList head), c :: rest, line⟩

/-- Reads on in a date or a time of day. Blanks can divide its parts, but do not end it. -/
def readTime (src : Source) (line : Nat) (head rest : List Char) : Except ScanError Scalar :=
  let isTimeChar (c : Char) := c.isDigit || ['-', ':', 'T', 't', ' ', '.', 'Z', 'z', '+'].contains c
  let text := head ++ rest.takeWhile isTimeChar
  src.upTo line (.time (String.ofList (text.reverse.dropWhile (· = ' ')).reverse))
    (rest.dropWhile isTimeChar)

/-- Reads on in a number or a time that starts with digits. -/
def readDigits (src : Source) (line : Nat) (head rest : List Char) : Except ScanError Scalar :=
  let head := head ++ rest.takeWhile Char.isDigit
  match rest.dropWhile Char.isDigit with
  | [] => src.upTo line (.integer (String.ofList head)) []
  | c :: rest =>
    if c = '-' || c = ':' then readTime src line (head ++ [c]) rest
    else if c = '_' then readDecimal src line (head ++ [c]) rest
    else if ['.', 'e', 'E'].contains c then readFloat src line (head ++ [c]) rest
    else .ok ⟨.integer (String.ofList head), c :: rest, line⟩

def readBase (src : Source) (line : Nat) (mark : Char) (name : String) (isBaseDigit : Char → Bool)
    (rest : List Char) : Except ScanError Scalar :=
  let want (found : Char) : Cause := .wantBaseDigit name (String.ofList ['0', mark, found])
  match rest with
  | [] => .error (src.ends line line (want '\x00'))
  | c :: _ =>
    if isBaseDigit c then
      let isNumberChar (c : Char) := isBaseDigit c || c = '_'
      src.upTo line (.integer (String.ofList ('0' :: mark :: rest.takeWhile isNumberChar)))
        (rest.dropWhile isNumberChar)
    else .error ⟨line, want c⟩

def readZero (src : Source) (line : Nat) : List Char → Except ScanError Scalar
  | [] => src.upTo line (.integer "0") []
  | c :: rest =>
    if c.isDigit then readDigits src line ['0', c] rest
    else if c = '_' then readDecimal src line ['0', c] rest
    else if ['.', 'e', 'E'].contains c then readFloat src line ['0', c] rest
    else if c = 'b' then readBase src line c "a binary" (fun c => c = '0' || c = '1') rest
    else if c = 'o' then readBase src line c "an octal" (fun c => '0' ≤ c && c ≤ '7') rest
    else if c = 'x' then readBase src line c "a hexadecimal" isHexDigit rest
    else .ok ⟨.integer "0", c :: rest, line⟩

/-- Reads the rest of a signed word for a number that has no digits. -/
def readFloatWord (src : Source) (line : Nat) (head : List Char) (second third : Char) :
    List Char → Except ScanError Scalar
  | [] => .error (src.ends line line (.badFloatWord (String.ofList head)))
  | c :: rest =>
    if c = second then
      match rest with
      | [] => .error (src.ends line line (.badFloatWord (String.ofList (head ++ [c]))))
      | d :: rest =>
        if d = third then .ok ⟨.float (String.ofList (head ++ [c, d])), rest, line⟩
        else .error ⟨line, .badFloatWord (String.ofList (head ++ [c]))⟩
    else .error ⟨line, .badFloatWord (String.ofList head)⟩

def readSigned (src : Source) (line : Nat) (sign : Char) : List Char → Except ScanError Scalar
  | [] => .error (src.ends line src.lastLine (.wantDigit '\x00'))
  | c :: rest =>
    if c = 'i' then readFloatWord src line [sign, c] 'n' 'f' rest
    else if c = 'n' then readFloatWord src line [sign, c] 'a' 'n' rest
    else if c = '0' && ['b', 'o', 'x'].contains (rest.headD ' ') then
      .error ⟨line, .signedBase (String.ofList (sign :: c :: rest.take 1))⟩
    else if c = '.' then .error ⟨line, .floatStartsWithDot⟩
    else if c.isDigit then readDecimal src line [sign, c] rest
    else .error ⟨lineAfter line c, .wantDigit c⟩

def readBool (src : Source) (line : Nat) (cs : List Char) : Except ScanError Scalar :=
  let word := cs.takeWhile Text.isLetter
  let rest := cs.dropWhile Text.isLetter
  match src.fault? line rest with
  | some error => .error error
  | none =>
    if word == "true".toList then .ok ⟨.bool true, rest, line⟩
    else if word == "false".toList then .ok ⟨.bool false, rest, line⟩
    else .error ⟨line, .wantValueWord (String.ofList word)⟩

/-- Takes a character if it comes next; `taken` holds those taken before, last first. -/
def takeChar (c : Char) (taken rest : List Char) : Bool × List Char × List Char :=
  match rest with
  | d :: after => if d = c then (true, d :: taken, after) else (false, taken, rest)
  | [] => (false, taken, [])

/-- Reads a word that starts with `first`, an `i` or `n`. It is a number if `nf` or `an` can be taken one
after the other; if not, the word shown starts with the last character taken. -/
def readNumberWord (src : Source) (line : Nat) (first : Char) (rest : List Char) :
    Except ScanError Scalar :=
  let (n, taken, rest) := takeChar 'n' [first] rest
  let (f, taken, rest) := if n then takeChar 'f' taken rest else (false, taken, rest)
  let (a, taken, rest) := if f then (false, taken, rest) else takeChar 'a' taken rest
  let (m, taken, rest) := if a then takeChar 'n' taken rest else (false, taken, rest)
  if f || m then .ok ⟨.float (String.ofList taken.reverse), rest, line⟩
  else readBool src line (taken.headD first :: rest)

/-- Reads a value that is a single token and starts with `c`. -/
def readScalar (src : Source) (line : Nat) (c : Char) (rest : List Char) : Except ScanError Scalar :=
  if c = '0' then readZero src line rest
  else if c.isDigit then readDigits src line [c] rest
  else if c = '"' || c = '\'' then readString src line c rest
  else if c = '.' then .error ⟨line, .floatStartsWithDot⟩
  else if c = 'i' || c = 'n' then readNumberWord src line c rest
  else if c = '-' || c = '+' then readSigned src line c rest
  else if Text.isLetter c then readBool src line (c :: rest)
  else .error ⟨line, .wantValue c⟩

def readName (src : Source) (line : Nat) (cs : List Char) : Except ScanError Scalar :=
  match cs with
  | '"' :: rest =>
    (readBasic src .basic line [] .nothing rest).map fun q => ⟨.string .basic q.body, q.rest, q.line⟩
  | '\'' :: rest => (readRaw src .raw line [] rest).map fun q => ⟨.string .raw q.body, q.rest, q.line⟩
  | _ => src.upTo line (.name (String.ofList (cs.takeWhile isBareChar))) (cs.dropWhile isBareChar)

def dropComment (cs : List Char) : List Char :=
  cs.dropWhile fun c => !isFeed c

inductive Bracket where
  | array
  | inline
deriving DecidableEq

inductive Mode where
  | line
  | lineEnd
  | key
  | keyName
  | keyMark
  | tableName (several : Bool)
  | tableMark (several : Bool)
  | value
  | item
  | itemMark
  | pair
  | pairMark

/-- What follows a value inside the given brackets, innermost first. -/
def Mode.afterValue : List Bracket → Mode
  | [] => .lineEnd
  | .array :: _ => .itemMark
  | .inline :: _ => .pairMark

/-- The tokens of a text, up to the first error. At most three calls in a row leave the text as it is, so
that four for each character are enough. -/
def scan (src : Source) : Nat → Mode → List Bracket → Nat → List Char → List (Except ScanError Lexeme)
  | 0, _, _, _, _ => []
  | fuel + 1, mode, brackets, line, cs =>
    let stop (line : Nat) (cause : Cause) : List (Except ScanError Lexeme) := [.error ⟨line, cause⟩]
    let ends (shown : Nat) (cause : Cause) : List (Except ScanError Lexeme) :=
      [.error (src.ends line shown cause)]
    let close (token : Token) (rest : List Char) : List (Except ScanError Lexeme) :=
      .ok ⟨token, line⟩ :: scan src fuel (.afterValue (brackets.drop 1)) (brackets.drop 1) line rest
    let named (next : Mode) (cs : List Char) : List (Except ScanError Lexeme) :=
      match readName src line cs with
      | .error error => [.error error]
      | .ok name => .ok ⟨name.token, name.line⟩ :: scan src fuel next brackets name.line name.rest
    match mode with
    | .line =>
      match cs with
      | [] => (src.fault? line []).toList.map .error
      | c :: rest =>
        if isBlank c || isFeed c then scan src fuel .line brackets (lineAfter line c) rest
        else if c = '#' then scan src fuel .line brackets line (dropComment rest)
        else if c = '[' then
          match src.fault? line rest with
          | some error => [.error error]
          | none =>
            if rest.head? = some '[' then
              .ok ⟨.tablesStart, line⟩ :: scan src fuel (.tableName true) brackets line (rest.drop 1)
            else .ok ⟨.tableStart, line⟩ :: scan src fuel (.tableName false) brackets line rest
        else scan src fuel .key brackets line cs
    | .lineEnd =>
      match cs with
      | [] => (src.fault? line []).toList.map .error
      | c :: rest =>
        if c = '#' then scan src fuel .line brackets line (dropComment rest)
        else if isBlank c then scan src fuel .lineEnd brackets line rest
        else if isFeed c then scan src fuel .line brackets (lineAfter line c) rest
        else stop line (.wantLineEnd c)
    | .key =>
      match cs.dropWhile isBlank with
      | [] => ends line .blankKey
      | c :: rest =>
        if c = '=' then stop line .blankKey
        else if c = '.' then stop line .keyStartsWithDot
        else .ok ⟨.keyStart, line⟩ :: scan src fuel .keyName brackets line (c :: rest)
    | .keyName =>
      match cs.dropWhile isBlank with
      | [] => ends line (.misplaced '=')
      | c :: rest =>
        if c = '=' || c = '.' then stop line (.misplaced c) else named .keyMark (c :: rest)
    | .keyMark =>
      match cs.dropWhile isBlank with
      | [] => ends src.lastLine (.endOfText "key separator '='")
      | c :: rest =>
        if c = '.' then scan src fuel .keyName brackets line rest
        else if c = '=' then .ok ⟨.keyEnd, line⟩ :: scan src fuel .value brackets line rest
        else stop line (.wantKeyMark c)
    | .tableName several =>
      match cs.dropWhile isBlank with
      | [] => ends line .emptyTableName
      | c :: rest =>
        if c = ']' then stop line .emptyTableName
        else if c = '.' then stop line .tableSeparator
        else named (.tableMark several) (c :: rest)
    | .tableMark several =>
      match cs.dropWhile isBlank with
      | [] => ends src.lastLine (.wantTableMark '\x00')
      | c :: rest =>
        if c = '.' then scan src fuel (.tableName several) brackets line rest
        else if c = ']' then
          if several then
            match rest with
            | [] => ends src.lastLine (.wantTablesMark '\x00')
            | d :: rest =>
              if d = ']' then .ok ⟨.tablesEnd, line⟩ :: scan src fuel .lineEnd brackets line rest
              else stop (lineAfter line d) (.wantTablesMark d)
          else .ok ⟨.tableEnd, line⟩ :: scan src fuel .lineEnd brackets line rest
        else stop (lineAfter line c) (.wantTableMark c)
    | .value =>
      match cs.dropWhile isBlank with
      | [] => ends src.lastLine (.endOfText "value")
      | c :: rest =>
        if c = '[' then
          .ok ⟨.arrayStart, line⟩ :: scan src fuel .item (.array :: brackets) line rest
        else if c = '\x7b' then
          .ok ⟨.inlineStart, line⟩ :: scan src fuel .pair (.inline :: brackets) line rest
        else
          match readScalar src line c rest with
          | .error error => [.error error]
          | .ok scalar =>
            .ok ⟨scalar.token, scalar.line⟩
              :: scan src fuel (.afterValue brackets) brackets scalar.line scalar.rest
    | .item =>
      match cs with
      | [] => scan src fuel .value brackets line []
      | c :: rest =>
        if isBlank c || isFeed c then scan src fuel .item brackets (lineAfter line c) rest
        else if c = '#' then scan src fuel .item brackets line (dropComment rest)
        else if c = ',' then stop line .unexpectedComma
        else if c = ']' then close .arrayEnd rest
        else scan src fuel .value brackets line cs
    | .itemMark =>
      match cs with
      | [] => ends src.lastLine (.wantArrayMark none)
      | c :: rest =>
        if isBlank c || isFeed c then scan src fuel .itemMark brackets (lineAfter line c) rest
        else if c = '#' then scan src fuel .itemMark brackets line (dropComment rest)
        else if c = ',' then scan src fuel .item brackets line rest
        else if c = ']' then close .arrayEnd rest
        else stop line (.wantArrayMark (some c))
    | .pair =>
      match cs with
      | [] => scan src fuel .key brackets line []
      | c :: rest =>
        if isBlank c then scan src fuel .pair brackets line rest
        else if isFeed c then stop (lineBefore line c) .lineInInlineTable
        else if c = '#' then scan src fuel .pair brackets line (dropComment rest)
        else if c = ',' then stop line .unexpectedComma
        else if c = '\x7d' then close .inlineEnd rest
        else scan src fuel .key brackets line cs
    | .pairMark =>
      match cs with
      | [] => ends src.lastLine (.wantInlineMark none)
      | c :: rest =>
        if isBlank c then scan src fuel .pairMark brackets line rest
        else if isFeed c then stop (lineBefore line c) .lineInInlineTable
        else if c = '#' then scan src fuel .pairMark brackets line (dropComment rest)
        else if c = ',' then
          if (rest.dropWhile isBlank).head? = some '\x7d' then stop line .trailingComma
          else scan src fuel .pair brackets line rest
        else if c = '\x7d' then close .inlineEnd rest
        else stop line (.wantInlineMark (some c))

def tokens (cs : List Char) : List (Except ScanError Lexeme) :=
  let (text, ending) := admissible cs
  scan ⟨ending, lastLine text⟩ (4 * text.length + 8) .line [] 1 text

end Keystroke.Toml
