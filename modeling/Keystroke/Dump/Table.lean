import Keystroke.Command.Table
import Keystroke.Dump.Cbor
import Keystroke.Dump.Json
import Keystroke.Text.Lower

/-! A command set written out in full, for documentation and debugging. -/
namespace Keystroke.Dump

open Keystroke.Command

/-- A node of the command tree with its token and, at the top, its shift key. -/
structure Entry where
  token : String
  keycode : String
  comment : String
  shift : String
  args : List Entry

/-- A command set as plain lists. -/
structure Snapshot where
  commands : List Entry
  aliases : List Alias
  shortcuts : List Alias

mutual

def entryOf (token : String) : Node → Entry
  | .mk keycode comment args => ⟨token, keycode, comment, "", entriesOf args⟩

def entriesOf : List (String × Node) → List Entry
  | [] => []
  | (token, node) :: rest => entryOf token node :: entriesOf rest

end

def ofTable (table : Table) : Snapshot where
  commands := (entriesOf table.root.args).map fun entry =>
    { entry with shift := ((table.shift? entry.token).map Shift.name).getD "" }
  aliases := table.aliases
  shortcuts := table.shortcuts

/-- A list as a JSON value; an empty one is null. -/
def Json.ofList (items : List Json) : Json :=
  if items.isEmpty then .null else .array items

/-- A list as a CBOR item; an empty one is null. -/
def Cbor.ofList (items : List Cbor) : Cbor :=
  if items.isEmpty then .null else .array items

mutual

/-- An entry as a JSON object without its empty optional members. -/
def Entry.toJson : Entry → Json
  | ⟨token, keycode, comment, shift, args⟩ =>
    .object ([("token", .string token), ("keycode", .string keycode)]
      ++ (if comment = "" then [] else [("comment", .string comment)])
      ++ (if shift = "" then [] else [("prefix", .string shift)])
      ++ (if args.isEmpty then [] else [("args", .array (entriesToJson args))]))

def entriesToJson : List Entry → List Json
  | [] => []
  | entry :: rest => entry.toJson :: entriesToJson rest

end

mutual

/-- An entry as a CBOR map without its empty optional members. -/
def Entry.toCbor : Entry → Cbor
  | ⟨token, keycode, comment, shift, args⟩ =>
    .map ([("token", .text token), ("keycode", .text keycode)]
      ++ (if comment = "" then [] else [("comment", .text comment)])
      ++ (if shift = "" then [] else [("prefix", .text shift)])
      ++ (if args.isEmpty then [] else [("args", .array (entriesToCbor args))]))

def entriesToCbor : List Entry → List Cbor
  | [] => []
  | entry :: rest => entry.toCbor :: entriesToCbor rest

end

def aliasToJson (a : Alias) : Json :=
  .object [("spelling", .string a.spelling), ("token", .string a.token)]

def aliasToCbor (a : Alias) : Cbor :=
  .map [("spelling", .text a.spelling), ("token", .text a.token)]

def Snapshot.toJson (snapshot : Snapshot) : Json :=
  .object [("commands", .ofList (entriesToJson snapshot.commands)),
    ("aliases", .ofList (snapshot.aliases.map aliasToJson)),
    ("shortcuts", .ofList (snapshot.shortcuts.map aliasToJson))]

def Snapshot.toCbor (snapshot : Snapshot) : Cbor :=
  .map [("commands", .ofList (entriesToCbor snapshot.commands)),
    ("aliases", .ofList (snapshot.aliases.map aliasToCbor)),
    ("shortcuts", .ofList (snapshot.shortcuts.map aliasToCbor))]

/-- A format of dumps. Codes without a format can be given, but nothing is written in them. -/
inductive Format where
  | json
  | cbor
  | unlisted (code : Int)
deriving DecidableEq

namespace Format

def ofCode (code : Int) : Format :=
  if code = 0 then json else if code = 1 then cbor else unlisted code

def code : Format → Int
  | json => 0
  | cbor => 1
  | unlisted code => code

def name : Format → String
  | json => "json"
  | cbor => "cbor"
  | unlisted code => "Format(" ++ toString code ++ ")"

end Format

structure UnknownFormat where
  name : String
deriving DecidableEq

def UnknownFormat.message (error : UnknownFormat) : String :=
  "'" ++ error.name ++ "' is not a table format"

/-- The format with a name, regardless of case. -/
def Format.ofName (name : String) : Except UnknownFormat Format :=
  let folded := String.ofList (Text.lower name.toList)
  if folded = json.name then .ok json
  else if folded = cbor.name then .ok cbor
  else .error ⟨name⟩

inductive Content where
  | text (value : String)
  | bytes (value : List UInt8)
deriving DecidableEq

def Snapshot.encode (snapshot : Snapshot) : Format → Except UnknownFormat Content
  | .json => .ok (.text snapshot.toJson.render)
  | .cbor => .ok (.bytes snapshot.toCbor.bytes)
  | format => .error ⟨format.name⟩

end Keystroke.Dump
