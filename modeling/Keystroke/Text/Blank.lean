/-! White space: words and lines of a text. -/
namespace Keystroke.Text

/-- The characters that separate words (Unicode White_Space). -/
def isBlank (c : Char) : Bool :=
  let code := c.toNat
  0x09 ≤ code && code ≤ 0x0D || code == 0x20 || code == 0x85 || code == 0xA0 || code == 0x1680
    || 0x2000 ≤ code && code ≤ 0x200A || code == 0x2028 || code == 0x2029 || code == 0x202F
    || code == 0x205F || code == 0x3000

/-- A word read so far, last character first, as a list of at most one word. -/
def pendingWord (word : List Char) : List (List Char) :=
  if word.isEmpty then [] else [word.reverse]

/-- The words of a text after the characters of `word`, last first. -/
def wordsFrom (word : List Char) : List Char → List (List Char)
  | [] => pendingWord word
  | c :: cs =>
    if isBlank c then pendingWord word ++ wordsFrom [] cs else wordsFrom (c :: word) cs

/-- The words of a text: its longest runs without white space. -/
def words (text : String) : List String :=
  (wordsFrom [] text.toList).map String.ofList

def consLine (c : Char) : List (List Char) → List (List Char)
  | [] => [[c]]
  | line :: lines => (c :: line) :: lines

/-- The pieces between line feeds; there is one more of them than line feeds. -/
def splitFeed : List Char → List (List Char)
  | [] => [[]]
  | c :: cs => if c = '\n' then [] :: splitFeed cs else consLine c (splitFeed cs)

/-- The pieces between pairs of carriage return and line feed. -/
def splitReturnFeed : List Char → List (List Char)
  | [] => [[]]
  | '\r' :: '\n' :: cs => [] :: splitReturnFeed cs
  | c :: cs => consLine c (splitReturnFeed cs)

def hasReturnFeed : List Char → Bool
  | [] => false
  | '\r' :: '\n' :: _ => true
  | _ :: cs => hasReturnFeed cs

/-- The lines of a text without its leading white space. Lines end in carriage return and line feed
if that pair occurs anywhere, in a line feed otherwise. -/
def lineChars (cs : List Char) : List (List Char) :=
  let text := cs.dropWhile isBlank
  if text.isEmpty then []
  else if hasReturnFeed text then splitReturnFeed text
  else splitFeed text

/-- The lines of a text without its leading white space. -/
def lines (text : String) : List String :=
  (lineChars text.toList).map String.ofList

end Keystroke.Text
