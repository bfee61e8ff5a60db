import Keystroke.Text.Quoted

/-! Tokens of constant expressions, each with the place it was read from. -/
namespace Keystroke.Constant

/-- A place in an expression; lines and columns count from one. -/
structure Place where
  line : Nat
  column : Nat
deriving DecidableEq

def Place.text (place : Place) : String :=
  "expr:" ++ toString place.line ++ ":" ++ toString place.column

def Place.advance (place : Place) (n : Nat) : Place :=
  { place with column := place.column + n }

def Place.nextLine (place : Place) : Place :=
  ⟨place.line + 1, 1⟩

/-- A token. Words that may not be used as names but mean nothing are `reserved`. -/
inductive Token where
  | eof
  | newline
  | indent
  | name (text : String)
  | int (value : Int)
  | float (value : Float)
  | string
  | bytes
  | mark (text : String)
  | keyword (text : String)
  | reserved

def Token.text : Token → String
  | .eof => "end of file"
  | .newline => "newline"
  | .indent => "indent"
  | .name _ => "identifier"
  | .int _ => "int literal"
  | .float _ => "float literal"
  | .string => "string literal"
  | .bytes => "bytes literal"
  | .mark text => "'" ++ text ++ "'"
  | .keyword text => text
  | .reserved => "illegal token"

def Token.isMark (text : String) : Token → Bool
  | .mark other => other == text
  | _ => false

def Token.isKeyword (text : String) : Token → Bool
  | .keyword other => other == text
  | _ => false

/-- A token with the places of its first character and after its last one. -/
structure Lexeme where
  token : Token
  start : Place
  stop : Place

def keywords : List String :=
  ["and", "break", "continue", "def", "elif", "else", "for", "if", "in", "lambda", "load", "not", "or",
   "pass", "return", "while"]

def reservedWords : List String :=
  ["as", "async", "await", "class", "del", "except", "finally", "from", "global", "import", "is",
   "nonlocal", "raise", "try", "with", "yield"]

def Token.ofWord (word : String) : Token :=
  if keywords.contains word then .keyword word
  else if reservedWords.contains word then .reserved
  else .name word

inductive SyntaxCause where
  | unexpectedClosing (c : Char)
  | unexpectedCharacter (c : Char)
  | strayBackslash
  | invalidHex
  | invalidOctal
  | invalidBinary
  | obsoleteOctal (digits : String)
  | invalidInt
  | invalidFloat
  | unclosedString
  | newlineInString
  | badEscape (message : String)
  | wantPrimary (found : Token)
  | wantEnd (found : Token)
  | want (found wanted : Token)
  | wantClause (found : Token) (closing : String)
  | notIdentifier
  | notAssociative (first second : String)
  | missingElse
  | trailingComma
  | keywordForm

def SyntaxCause.message : SyntaxCause → String
  | unexpectedClosing c => "unexpected " ++ Text.quoteChar c
  | unexpectedCharacter c => "unexpected input character " ++ Text.quoteChar c
  | strayBackslash => "stray backslash in program"
  | invalidHex => "invalid hex literal"
  | invalidOctal => "invalid octal literal"
  | invalidBinary => "invalid binary literal"
  | obsoleteOctal digits => "obsolete form of octal literal; use 0o" ++ digits
  | invalidInt => "invalid int literal"
  | invalidFloat => "invalid float literal"
  | unclosedString => "unexpected EOF in string"
  | newlineInString => "unexpected newline in string"
  | badEscape message => message
  | wantPrimary found => "got " ++ found.text ++ ", want primary expression"
  | wantEnd found => "got " ++ found.text ++ " after expression, want EOF"
  | want found wanted => "got " ++ found.text ++ ", want " ++ wanted.text
  | wantClause found closing =>
    "got " ++ found.text ++ ", want '" ++ closing ++ "', for, or if"
  | notIdentifier => "not an identifier"
  | notAssociative first second =>
    first ++ " does not associate with " ++ second ++ " (use parens)"
  | missingElse => "conditional expression without else clause"
  | trailingComma => "unparenthesized tuple with trailing comma"
  | keywordForm => "keyword argument must have form name=expr"

structure SyntaxError where
  place : Place
  cause : SyntaxCause

def SyntaxError.message (error : SyntaxError) : String :=
  error.place.text ++ ": " ++ error.cause.message

end Keystroke.Constant
