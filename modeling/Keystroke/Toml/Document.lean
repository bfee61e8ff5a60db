import Keystroke.Toml.Literal

/-! Documents: the values of a text and its keys in order. A table can be named before it is written down,
by a longer key; such a table is implied, and can be written down once. -/
namespace Keystroke.Toml

/-- A value. Of numbers and times only the kind is kept. -/
inductive Value where
  | integer
  | float
  | time
  | bool (value : Bool)
  | text (value : String)
  | array (items : List Value)
  | table (members : List (String × Value))
  | tables (items : List (List (String × Value)))
deriving Inhabited

/-- The members of a table in the order in which they were first put in. -/
abbrev Members := List (String × Value)

def Value.kindName : Value → String
  | integer => "int64"
  | float => "float64"
  | time => "time.Time"
  | bool _ => "bool"
  | text _ => "string"
  | array _ => "[]any"
  | table _ => "map[string]any"
  | tables _ => "[]map[string]any"

/-- Puts a value under a name, in place of the one there. -/
def put (name : String) (value : Value) : Members → Members
  | [] => [(name, value)]
  | member :: rest =>
    if member.1 = name then (name, value) :: rest else member :: put name value rest

/-- The members of a value that is a table, or of the last table in it. -/
def Value.members? : Value → Option Members
  | table members => some members
  | tables items => items.getLast?
  | _ => none

/-- A table with other members, or tables with other members of the last one. -/
def Value.withMembers (members : Members) : Value → Value
  | tables items => tables (items.dropLast ++ [members])
  | _ => table members

/-- The members of the table at a path; if something on the way is no table, the path up to there. -/
def membersAt (seen : Key) (members : Members) : Key → Except Key Members
  | [] => .ok members
  | name :: path =>
    match (members.lookup name).bind Value.members? with
    | some inner => membersAt (seen ++ [name]) inner path
    | none => .error (seen ++ [name])

def putAt (name : String) (value : Value) : Key → Members → Members
  | [], members => put name value members
  | step :: path, members =>
    let outer := (members.lookup step).getD (.table [])
    put step (outer.withMembers (putAt name value path (outer.members?.getD []))) members

/-- A text that is no document: where, the last key before, and why. -/
structure SyntaxError where
  line : Nat
  lastKey : String
  cause : Cause

def SyntaxError.message (error : SyntaxError) : String :=
  "toml: line " ++ toString error.line
    ++ (if error.lastKey = "" then "" else " (last key " ++ Text.quote error.lastKey ++ ")")
    ++ ": " ++ error.cause.message

/-- What is known of a key: whether its value is an array in brackets, and its line. -/
structure KeyInfo where
  isArray : Bool
  line : Nat

structure Draft where
  input : List (Except ScanError Lexeme)
  root : Members := []
  keys : List Key := []
  /-- Tables that are implied. -/
  implied : List Key := []
  /-- What is known of keys, latest first. -/
  info : List (Key × KeyInfo) := []
  context : Key := []
  /-- The name whose value is read, if any. -/
  current : String := ""
  line : Nat := 0

def Draft.lastKey (draft : Draft) : String :=
  if draft.current = "" then keyText draft.context
  else if draft.context.isEmpty then draft.current
  else keyText draft.context ++ "." ++ draft.current

abbrev Reader (α : Type) := Draft → Except SyntaxError (α × Draft)

namespace Reader

def andThen {α β : Type} (first : Reader α) (next : α → Reader β) : Reader β := fun draft =>
  match first draft with
  | .ok (value, draft) => next value draft
  | .error error => .error error

instance : Monad Reader where
  pure value := fun draft => .ok (value, draft)
  bind := andThen

def draft : Reader Draft := fun draft => .ok (draft, draft)

def change (f : Draft → Draft) : Reader Unit := fun draft => .ok ((), f draft)

def failAt {α : Type} (line : Nat) (cause : Cause) : Reader α := fun draft =>
  .error ⟨line, draft.lastKey, cause⟩

def fail {α : Type} (cause : Cause) : Reader α := fun draft =>
  .error ⟨draft.line, draft.lastKey, cause⟩

def check (line : Nat) : Option Cause → Reader Unit
  | some cause => failAt line cause
  | none => pure ()

def orFail {α : Type} (line : Nat) : Except Cause α → Reader α
  | .ok value => pure value
  | .error cause => failAt line cause

def next? : Reader (Option Lexeme) := fun draft =>
  match draft.input with
  | [] => .ok (none, draft)
  | .ok lexeme :: rest => .ok (some lexeme, { draft with input := rest })
  | .error error :: _ => .error ⟨error.line, draft.lastKey, error.cause⟩

/-- Keeps what is known of a name in the table at hand; no name stands for the table itself. -/
def note (name : String) (isArray : Bool) (line : Nat) : Reader Unit :=
  change fun draft =>
    let key := if name = "" then draft.context else draft.context ++ [name]
    let key := if key.isEmpty then [""] else key
    { draft with info := (key, ⟨isArray, line⟩) :: draft.info }

def imply (key : Key) : Reader Unit :=
  change fun draft => { draft with implied := key :: draft.implied }

/-- Puts a value under a name into the table at hand. A name that is taken is an error, unless it is that
of an array in brackets, or of an implied table, which stays as it is. -/
def define (name : String) (value : Value) : Reader Unit := do
  let d ← draft
  match membersAt [] d.root d.context with
  | .error key => fail (.redefined key)
  | .ok members =>
    let key := d.context ++ [name]
    let settled := d.implied.filter (· ≠ key)
    let isArray := ((d.info.lookup key).map KeyInfo.isArray).getD false
    if (members.lookup name).isNone || isArray then
      change fun draft =>
        { draft with
          root := putAt name value d.context draft.root
          implied := if (members.lookup name).isNone then draft.implied else settled }
    else if d.implied.contains key then change fun draft => { draft with implied := settled }
    else fail (.redefined key)

/-- Makes sure that the tables on a path exist; those that did not are implied. -/
def enter (seen : Key) : Key → Reader Unit
  | [] => pure ()
  | name :: path => do
    let d ← draft
    let members := (membersAt [] d.root seen).toOption.getD []
    match members.lookup name with
    | none =>
      imply (seen ++ [name])
      change fun draft => { draft with root := putAt name (.table []) seen draft.root }
    | some value => if value.members?.isNone then fail (.notTable (seen ++ [name]))
    enter (seen ++ [name]) path

/-- Goes to a new table, or to a new one among several of the same key. -/
def openTable (key : Key) (several : Bool) : Reader Unit := do
  let parents := key.dropLast
  let name := key.getLastD ""
  enter [] parents
  change fun draft => { draft with context := parents }
  if several then
    let d ← draft
    match ((membersAt [] d.root parents).toOption.getD []).lookup name with
    | none => change fun draft => { draft with root := putAt name (.tables [[]]) parents draft.root }
    | some (.tables items) =>
      change fun draft => { draft with root := putAt name (.tables (items ++ [[]])) parents draft.root }
    | some _ => fail (.notTables key)
  else define name (.table [])
  change fun draft => { draft with context := key }

/-- Goes into implied tables, one after the other. -/
def openImplied : Key → Reader Unit
  | [] => pure ()
  | name :: rest => do
    let key := (← draft).context ++ [name]
    imply key
    openTable key false
    openImplied rest

def nameOf (lexeme : Lexeme) : Reader String :=
  match lexeme.token with
  | .name text => pure text
  | .string form body => orFail lexeme.line (stringValue form body)
  | _ => pure ""

def names : Nat → Reader Key
  | 0 => pure []
  | fuel + 1 => do
    match ← next? with
    | none => pure []
    | some lexeme =>
      if [.keyEnd, .tableEnd, .tablesEnd].contains lexeme.token then pure []
      else
        let name ← nameOf lexeme
        pure (name :: (← names fuel))

/-- Reads a key; errors show on the line of its first name from here on. -/
def key (fuel : Nat) : Reader Key := do
  match ← next? with
  | none => pure []
  | some lexeme =>
    change fun draft => { draft with line := lexeme.line }
    let name ← nameOf lexeme
    pure (name :: (← names fuel))

/-- Goes to the name of a key inside the table at hand, through implied tables, and lists it. -/
def openKey (key : Key) : Reader Unit := do
  change fun draft => { draft with current := key.getLastD "" }
  openImplied key.dropLast
  change fun draft => { draft with keys := draft.keys ++ [draft.context ++ [draft.current]] }

/-- Puts a value at a path of tables, making those that are missing; none if something on the way is no
table. -/
def insertAt? (name : String) (value : Value) : Key → Members → Option Members
  | [], members => some (put name value members)
  | step :: path, members =>
    match members.lookup step with
    | none => (insertAt? name value path []).map fun inner => put step (.table inner) members
    | some (.table inner) =>
      (insertAt? name value path inner).map fun inner => put step (.table inner) members
    | some _ => none

mutual

def value : Nat → Lexeme → Bool → Reader Value
  | 0, _, _ => pure default
  | fuel + 1, lexeme, inArray => do
    match lexeme.token with
    | .string form body => pure (.text (← orFail lexeme.line (stringValue form body)))
    | .bool b => pure (.bool b)
    | .integer text =>
      check lexeme.line (integerFault? text)
      pure .integer
    | .float text =>
      check lexeme.line (floatFault? text)
      pure .float
    | .time text =>
      check lexeme.line (timeFault? text)
      pure .time
    | .arrayStart =>
      note (← draft).current true lexeme.line
      pure (.array (← items fuel))
    | .inlineStart =>
      let outer ← draft
      let context := outer.context ++ [outer.current]
      change fun draft => { draft with context := context, current := "" }
      imply context
      openTable context inArray
      let members ← pairs fuel context []
      change fun draft => { draft with context := outer.context, current := outer.current }
      pure (.table members)
    | _ => pure default

def items : Nat → Reader (List Value)
  | 0 => pure []
  | fuel + 1 => do
    match ← next? with
    | none => pure []
    | some lexeme =>
      if lexeme.token = .arrayEnd then pure []
      else
        let first ← value fuel lexeme true
        pure (first :: (← items fuel))

def pairs : Nat → Key → Members → Reader Members
  | 0, _, members => pure members
  | fuel + 1, context, members => do
    match ← next? with
    | none => pure members
    | some start =>
      if start.token = .inlineEnd then pure members
      else
        let path ← key fuel
        openKey path
        match ← next? with
        | none => pure members
        | some lexeme =>
          let inner ← value fuel lexeme false
          let d ← draft
          define d.current inner
          note d.current (inner matches .array _) start.line
          match insertAt? d.current inner path.dropLast members with
          | none => fail (.insideNotTable d.context)
          | some members =>
            change fun draft => { draft with context := context }
            pairs fuel context members

end

def keyLine (fuel : Nat) : Reader Unit := do
  let outer ← draft
  openKey (← key fuel)
  match ← next? with
  | none => pure ()
  | some lexeme =>
    let inner ← value fuel lexeme false
    let name := (← draft).current
    define name inner
    note name (inner matches .array _) lexeme.line
    change fun draft => { draft with context := outer.context, current := "" }

def tableLine (fuel line : Nat) (several : Bool) : Reader Unit := do
  let path ← key fuel
  openTable path several
  note "" false line
  change fun draft => { draft with keys := draft.keys ++ [path] }

def lines : Nat → Reader Unit
  | 0 => pure ()
  | fuel + 1 => do
    match ← next? with
    | none => pure ()
    | some lexeme =>
      match lexeme.token with
      | .tableStart => tableLine fuel lexeme.line false
      | .tablesStart => tableLine fuel lexeme.line true
      | _ => keyLine fuel
      lines fuel

end Reader

/-- A document: its values, its keys in order, and the lines of the keys that have one. -/
structure Document where
  root : Members
  keys : List Key
  lines : List (Key × Nat)

/-- The line of a key, zero for a table that is only implied. -/
def Document.lineOf (document : Document) (key : Key) : Nat :=
  (document.lines.lookup key).getD 0

def dropOrderMark : List Char → List Char
  | '\uFEFF' :: rest => rest
  | cs => cs

def byteCount (c : Char) : Nat :=
  c.utf8Size

/-- A null among the first `left` bytes. -/
def hasEarlyNull (left : Nat) : List Char → Bool
  | [] => false
  | c :: rest => left ≠ 0 && (c = '\x00' || hasEarlyNull (left - byteCount c) rest)

def Document.read (text : String) : Except SyntaxError Document :=
  let cs := dropOrderMark text.toList
  if hasEarlyNull 6 cs then .error ⟨1, "", .nullByte⟩
  else
    let input := tokens cs
    match Reader.lines (input.length + 1) { input := input } with
    | .error error => .error error
    | .ok ((), draft) =>
      .ok { root := draft.root, keys := draft.keys, lines := draft.info.map fun (key, info) => (key, info.line) }

end Keystroke.Toml
