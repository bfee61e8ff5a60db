import Keystroke.Toml.Key

/-! The tokens of a settings document, and why a text is none. -/
namespace Keystroke.Toml

inductive StringForm where
  /-- Between double quotes on one line. -/
  | basic
  /-- Between triple double quotes. -/
  | basicLines
  /-- Between single quotes on one line, without escapes. -/
  | raw
  /-- Between triple single quotes, without escapes. -/
  | rawLines
deriving DecidableEq

/-- A token. Comments and blanks have none. -/
inductive Token where
  | tableStart
  | tableEnd
  | tablesStart
  | tablesEnd
  | keyStart
  | keyEnd
  | name (text : String)
  | string (form : StringForm) (body : List Char)
  | bool (value : Bool)
  | integer (text : String)
  | float (text : String)
  | time (text : String)
  | arrayStart
  | arrayEnd
  | inlineStart
  | inlineEnd
deriving DecidableEq

/-- A token and the line on which it ends. -/
structure Lexeme where
  token : Token
  line : Nat

inductive Cause where
  | nullByte
  | control (c : Char)
  | endOfText (wanted : String)
  | wantValue (found : Char)
  | wantValueWord (found : String)
  | blankKey
  | keyStartsWithDot
  | misplaced (mark : Char)
  | wantKeyMark (found : Char)
  | emptyTableName
  | tableSeparator
  | wantTableMark (found : Char)
  | wantTablesMark (found : Char)
  | wantLineEnd (found : Char)
  | unexpectedComma
  | wantArrayMark (found : Option Char)
  | wantInlineMark (found : Option Char)
  | trailingComma
  | lineInInlineTable
  | lineInString
  | badEscape (found : Char)
  | wantHexDigits (size : Nat) (found : List Char)
  | manyQuotes (form : StringForm)
  | floatStartsWithDot
  | badFloatWord (text : String)
  | signedBase (text : String)
  | wantDigit (found : Char)
  | wantBaseDigit (base : String) (text : String)
  | underscores (type text : String)
  | leadingZeroes (type text : String)
  | pointWithoutDigits (text : String)
  | outOfRange (text type : String)
  | badFloat (text : String)
  | badTime (text : String)
  | blankEscape (found : Char)
  | noCharacter (digits : String)
  | redefined (key : Key)
  | notTable (key : Key)
  | notTables (key : Key)
  | insideNotTable (key : Key)

def foundText : Option Char → String
  | none => "end of file"
  | some c => "'" ++ c.toString ++ "'"

def Cause.message : Cause → String
  | nullByte => "files cannot contain NULL bytes; probably using UTF-16; TOML files must be UTF-8"
  | control c =>
    "TOML files cannot contain control characters: '0x" ++ String.ofList (Text.hexDigits 2 c.toNat) ++ "'"
  | endOfText wanted => "unexpected EOF; expected " ++ wanted
  | wantValue found => "expected value but found " ++ Text.quoteChar found ++ " instead"
  | wantValueWord found => "expected value but found " ++ Text.quote found ++ " instead"
  | blankKey => "unexpected '=': key name appears blank"
  | keyStartsWithDot => "unexpected '.': keys cannot start with a '.'"
  | misplaced mark => "unexpected '" ++ mark.toString ++ "'"
  | wantKeyMark found => "expected '.' or '=', but got " ++ Text.quoteChar found ++ " instead"
  | emptyTableName => "unexpected end of table name (table names cannot be empty)"
  | tableSeparator => "unexpected table separator (table names cannot be empty)"
  | wantTableMark found =>
    "expected '.' or ']' to end table name, but got " ++ Text.quoteChar found ++ " instead"
  | wantTablesMark found =>
    "expected end of table array name delimiter ']', but got " ++ Text.quoteChar found ++ " instead"
  | wantLineEnd found =>
    "expected a top-level item to end with a newline, comment, or EOF, but got "
      ++ Text.quoteChar found ++ " instead"
  | unexpectedComma => "unexpected comma"
  | wantArrayMark found =>
    "expected a comma (',') or array terminator (']'), but got " ++ foundText found
  | wantInlineMark found =>
    "expected a comma or an inline table terminator '\x7d', but got " ++ foundText found ++ " instead"
  | trailingComma => "trailing comma not allowed in inline tables"
  | lineInInlineTable => "newlines not allowed within inline tables"
  | lineInString => "strings cannot contain newlines"
  | badEscape found => "invalid escape in string '\\" ++ found.toString ++ "'"
  | wantHexDigits size found =>
    "expected " ++ (if size = 4 then "four" else "eight") ++ " hexadecimal digits after '\\"
      ++ (if size = 4 then "u" else "U") ++ "', but got " ++ Text.quote (String.ofList found)
      ++ " instead"
  | manyQuotes form =>
    if form = .basicLines then "unexpected '\"\"\"\"\"\"'" else "unexpected \"''''''\""
  | floatStartsWithDot => "floats must start with a digit, not '.'"
  | badFloatWord text => "invalid float: '" ++ text ++ "'"
  | signedBase text => "cannot use sign with non-decimal numbers: '" ++ text ++ "'"
  | wantDigit found => "expected a digit but got " ++ Text.quoteChar found
  | wantBaseDigit base text => "not " ++ base ++ " number: '" ++ text ++ "'"
  | underscores type text =>
    "Invalid " ++ type ++ " " ++ Text.quote text ++ ": underscores must be surrounded by digits"
  | leadingZeroes type text =>
    "Invalid " ++ type ++ " " ++ Text.quote text ++ ": cannot have leading zeroes"
  | pointWithoutDigits text =>
    "Invalid float " ++ Text.quote text ++ ": '.' must be followed by one or more digits"
  | outOfRange text type => text ++ " is out of range for " ++ type
  | badFloat text => "Invalid float value: " ++ Text.quote text
  | badTime text => "invalid datetime: " ++ Text.quote text
  | blankEscape found => "invalid escape: '\\" ++ found.toString ++ "'"
  | noCharacter digits => "Escaped character '\\u" ++ digits ++ "' is not valid UTF-8."
  | redefined key => "Key '" ++ keyText key ++ "' has already been defined."
  | notTable key => "Key '" ++ keyText key ++ "' was already created as a hash."
  | notTables key =>
    "Key '" ++ keyText key ++ "' was already created and cannot be used as an array."
  | insideNotTable key => Text.quote (keyText key) ++ " is not a table."

end Keystroke.Toml
