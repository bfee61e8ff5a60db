import Keystroke.Constant.Expr
import Keystroke.Constant.Scan

/-! Reading tokens as an expression. The reader looks one token ahead, so an error in a token shows
when the token before it is taken. -/
namespace Keystroke.Constant

/-- The token at hand and those after it. -/
structure Stream where
  current : Lexeme
  rest : List (Except SyntaxError Lexeme)

abbrev Reader (α : Type) := Stream → Except SyntaxError (α × Stream)

namespace Reader

/-- Goes on to the next token; past the end there is only the end. -/
def advance : Reader Unit := fun stream =>
  match stream.rest with
  | [] => .ok ((), stream)
  | .ok lexeme :: rest => .ok ((), ⟨lexeme, rest⟩)
  | .error error :: _ => .error error

/-- Fails at the end of the token at hand. -/
def failAfter {α : Type} (cause : Token → SyntaxCause) : Reader α := fun stream =>
  .error ⟨stream.current.stop, cause stream.current.token⟩

def andThen {α β : Type} (first : Reader α) (next : α → Reader β) : Reader β := fun stream =>
  match first stream with
  | .ok (value, stream) => next value stream
  | .error error => .error error

instance : Monad Reader where
  pure value := fun stream => .ok (value, stream)
  bind := andThen

def current : Reader Lexeme := fun stream => .ok (stream.current, stream)

def failAt {α : Type} (place : Place) (cause : SyntaxCause) : Reader α := fun _ =>
  .error ⟨place, cause⟩

def replace (token : Token) : Reader Unit := fun stream =>
  .ok ((), { stream with current := { stream.current with token := token } })

def expectMark (text : String) : Reader Unit := do
  let lexeme ← current
  if lexeme.token.isMark text then advance else failAfter fun found => .want found (.mark text)

def expectName : Reader String := do
  match (← current).token with
  | .name text =>
    advance
    pure text
  | _ => failAfter fun _ => .notIdentifier

/-- The operator at hand. The words `not in` are one operator and are joined here. -/
def operator? : Reader (Option BinaryOp) := do
  if (← current).token.isKeyword "not" then
    advance
    if (← current).token.isKeyword "in" then replace (.keyword "not in")
    else failAfter fun found => .want found (.keyword "in")
  match (← current).token with
  | .mark text | .keyword text => pure (BinaryOp.all.find? (·.text == text))
  | _ => pure none

/-- Tokens that end a list of expressions. -/
def endsList : Token → Bool
  | .eof | .newline => true
  | .mark text => ["=", "\x7d", "]", ")", ";"].contains text
  | _ => false

def levels : Nat := 10

mutual

/-- Reads one expression or several with commas between; several make a tuple. -/
def expression : Nat → Bool → Reader Expr
  | 0, _ => failAfter .wantPrimary
  | fuel + 1, trailing => do
    let first ← test fuel
    if (← current).token.isMark "," then
      pure (.tuple (first :: (← moreItems fuel trailing)))
    else pure first

def moreItems : Nat → Bool → Reader (List Expr)
  | 0, _ => failAfter .wantPrimary
  | fuel + 1, trailing => do
    let comma ← current
    if comma.token.isMark "," then
      advance
      if endsList (← current).token then
        if trailing then pure [] else failAt comma.start .trailingComma
      else
        let item ← test fuel
        pure (item :: (← moreItems fuel trailing))
    else pure []

/-- Reads one expression, which can be conditional. -/
def test : Nat → Reader Expr
  | 0 => failAfter .wantPrimary
  | fuel + 1 => do
    if (← current).token.isKeyword "lambda" then lambda fuel true
    else
      let yes ← binary fuel 0
      let word ← current
      if word.token.isKeyword "if" then
        advance
        let condition ← binary fuel 0
        if (← current).token.isKeyword "else" then
          advance
          pure (.cond condition yes (← test fuel))
        else failAt word.start .missingElse
      else pure yes

/-- Reads one expression that is not conditional at its top. -/
def plainTest : Nat → Reader Expr
  | 0 => failAfter .wantPrimary
  | fuel + 1 => do
    if (← current).token.isKeyword "lambda" then lambda fuel false else binary fuel 0

/-- Reads a lambda; its body may be conditional or not. -/
def lambda : Nat → Bool → Reader Expr
  | 0, _ => failAfter .wantPrimary
  | fuel + 1, conditional => do
    advance
    let defaults ← if (← current).token.isMark ":" then pure [] else parameters fuel true
    expectMark ":"
    pure (.lambda defaults (← if conditional then test fuel else plainTest fuel))

/-- Reads the parameters of a lambda and keeps their default values. -/
def parameters : Nat → Bool → Reader (List Expr)
  | 0, _ => failAfter .wantPrimary
  | fuel + 1, first => do
    let isEnd (token : Token) : Bool := match token with
      | .eof => true
      | token => token.isMark ")" || token.isMark ":"
    if isEnd (← current).token then pure []
    else
      if !first then expectMark ","
      let token := (← current).token
      if token.isMark ")" then pure []
      else if token.isMark "*" || token.isMark "**" then
        advance
        let named := match (← current).token with
          | .name _ => true
          | _ => false
        if token.isMark "**" || named then
          let _ ← expectName
        parameters fuel false
      else
        let _ ← expectName
        if (← current).token.isMark "=" then
          advance
          let value ← test fuel
          pure (value :: (← parameters fuel false))
        else parameters fuel false

/-- Reads operands and the operators between them that bind at `level` or tighter. -/
def binary : Nat → Nat → Reader Expr
  | 0, _ => failAfter .wantPrimary
  | fuel + 1, level => do
    if levels ≤ level then suffixed fuel
    else if level = 2 && (← current).token.isKeyword "not" then
      advance
      pure (.unary .negate (← binary fuel level))
    else operators fuel level none (← binary fuel (level + 1))

/-- Reads the operators of a level after their first operand. `last` is the one read before. -/
def operators : Nat → Nat → Option BinaryOp → Expr → Reader Expr
  | 0, _, _, _ => failAfter .wantPrimary
  | fuel + 1, level, last, left => do
    match ← operator? with
    | none => pure left
    | some op =>
      if op.level < level then pure left
      else
        match last with
        | some before =>
          if op.level = BinaryOp.eq.level then
            failAfter fun _ => .notAssociative before.text op.text
          else
            advance
            operators fuel level (some op) (.binary op left (← binary fuel (op.level + 1)))
        | none =>
          advance
          operators fuel level (some op) (.binary op left (← binary fuel (op.level + 1)))

def suffixed : Nat → Reader Expr
  | 0 => failAfter .wantPrimary
  | fuel + 1 => do
    suffixes fuel (← primary fuel)

def suffixes : Nat → Expr → Reader Expr
  | 0, _ => failAfter .wantPrimary
  | fuel + 1, object => do
    let token := (← current).token
    if token.isMark "." then
      advance
      suffixes fuel (.dot object (← expectName))
    else if token.isMark "[" then
      advance
      suffixes fuel (← subscript fuel object)
    else if token.isMark "(" then
      advance
      let args ← arguments fuel true
      expectMark ")"
      suffixes fuel (.call object args)
    else pure object

def subscript : Nat → Expr → Reader Expr
  | 0, _ => failAfter .wantPrimary
  | fuel + 1, object => do
    let low ← if (← current).token.isMark ":" then pure none else some <$> expression fuel false
    match low, (← current).token.isMark "]" with
    | some key, true =>
      advance
      pure (.index object key)
    | _, _ =>
      let mut bounds := low.toList
      if (← current).token.isMark ":" then
        advance
        let token := (← current).token
        if !(token.isMark ":" || token.isMark "]") then
          bounds := bounds ++ [← test fuel]
      if (← current).token.isMark ":" then
        advance
        if !(← current).token.isMark "]" then
          bounds := bounds ++ [← test fuel]
      expectMark "]"
      pure (.slice object bounds)

def arguments : Nat → Bool → Reader (List Argument)
  | 0, _ => failAfter .wantPrimary
  | fuel + 1, first => do
    let isEnd (token : Token) : Bool := match token with
      | .eof => true
      | token => token.isMark ")"
    if isEnd (← current).token then pure []
    else
      if !first then expectMark ","
      let start ← current
      if start.token.isMark ")" then pure []
      else if start.token.isMark "*" || start.token.isMark "**" then
        advance
        let form := if start.token.isMark "*" then ArgumentForm.spread else .spreadNamed
        let value ← test fuel
        pure (.mk form start.start value :: (← arguments fuel false))
      else
        let value ← test fuel
        if (← current).token.isMark "=" then
          match value with
          | .name _ name =>
            advance
            let value ← test fuel
            pure (.mk (.named name) start.start value :: (← arguments fuel false))
          | _ => failAfter fun _ => .keywordForm
        else pure (.mk .plain start.start value :: (← arguments fuel false))

/-- Reads a literal, a name, an expression in brackets or a sign with its operand. -/
def primary : Nat → Reader Expr
  | 0 => failAfter .wantPrimary
  | fuel + 1 => do
    let lexeme ← current
    match lexeme.token with
    | .name text =>
      advance
      pure (.name lexeme.start text)
    | .int value =>
      advance
      pure (.int value)
    | .float value =>
      advance
      pure (.float value)
    | .string =>
      advance
      pure .string
    | .bytes =>
      advance
      pure .bytes
    | .mark "[" =>
      advance
      listItems fuel
    | .mark "\x7b" =>
      advance
      dictEntries fuel
    | .mark "(" =>
      advance
      if (← current).token.isMark ")" then
        advance
        pure (.tuple [])
      else
        let inner ← expression fuel true
        expectMark ")"
        pure (.paren inner)
    | .mark "-" =>
      advance
      pure (.unary .minus (← suffixed fuel))
    | .mark "+" =>
      advance
      pure (.unary .plus (← suffixed fuel))
    | .mark "~" =>
      advance
      pure (.unary .invert (← suffixed fuel))
    | found => failAt lexeme.start (.wantPrimary found)

def listItems : Nat → Reader Expr
  | 0 => failAfter .wantPrimary
  | fuel + 1 => do
    if (← current).token.isMark "]" then
      advance
      pure (.list [])
    else
      let first ← test fuel
      if (← current).token.isKeyword "for" then
        pure (.comprehension [first] (← clauses fuel "]"))
      else
        let rest ← moreItems fuel true
        expectMark "]"
        pure (.list (first :: rest))

def dictEntry : Nat → Reader (List Expr)
  | 0 => failAfter .wantPrimary
  | fuel + 1 => do
    let key ← test fuel
    expectMark ":"
    pure [key, ← test fuel]

def dictEntries : Nat → Reader Expr
  | 0 => failAfter .wantPrimary
  | fuel + 1 => do
    if (← current).token.isMark "\x7d" then
      advance
      pure (.dict [])
    else
      let first ← dictEntry fuel
      if (← current).token.isKeyword "for" then
        pure (.comprehension first (← clauses fuel "\x7d"))
      else
        let rest ← moreEntries fuel
        expectMark "\x7d"
        pure (.dict (first ++ rest))

def moreEntries : Nat → Reader (List Expr)
  | 0 => failAfter .wantPrimary
  | fuel + 1 => do
    if (← current).token.isMark "," then
      advance
      if (← current).token.isMark "\x7d" then pure []
      else
        let entry ← dictEntry fuel
        pure (entry ++ (← moreEntries fuel))
    else pure []

def clauses : Nat → String → Reader (List Expr)
  | 0, _ => failAfter .wantPrimary
  | fuel + 1, closing => do
    let token := (← current).token
    if token.isMark closing then
      advance
      pure []
    else if token.isKeyword "for" then
      advance
      let targets ← loopVariables fuel
      if (← current).token.isKeyword "in" then advance
      else failAfter fun found => .want found (.keyword "in")
      let source ← binary fuel 0
      pure (targets ++ source :: (← clauses fuel closing))
    else if token.isKeyword "if" then
      advance
      let condition ← plainTest fuel
      pure (condition :: (← clauses fuel closing))
    else failAfter fun found => .wantClause found closing

def loopVariables : Nat → Reader (List Expr)
  | 0 => failAfter .wantPrimary
  | fuel + 1 => do
    let first ← suffixed fuel
    if (← current).token.isMark "," then
      advance
      if endsList (← current).token then pure [first]
      else pure (first :: (← loopVariables fuel))
    else pure [first]

end

end Reader

/-- Reads a text as one expression; a line end may follow it. -/
def parse (text : String) : Except SyntaxError Expr :=
  match scan text with
  | [] => .error ⟨⟨1, 1⟩, .wantPrimary .eof⟩
  | .error error :: _ => .error error
  | .ok first :: rest =>
    let fuel := 32 * (rest.length + 2)
    let whole : Reader Expr := do
      let expr ← Reader.expression fuel false
      match (← Reader.current).token with
      | .newline => Reader.advance
      | _ => pure ()
      match (← Reader.current).token with
      | .eof => pure expr
      | _ => Reader.failAfter .wantEnd
    match whole ⟨first, rest⟩ with
    | .ok (expr, _) => .ok expr
    | .error error => .error error

end Keystroke.Constant
