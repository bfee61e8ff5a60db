import Keystroke.Listing.Convert
import Keystroke.Toml.Document

/-! Settings and their document. The names of settings are compared without regard to case. What a document
does not name stays as it is. The members of a table are applied in an order that the document does not tell, so
that it is open which of two spellings of a name counts, and which of two faults is reported. -/
namespace Keystroke

open Keystroke.Listing Keystroke.Toml

structure Settings where
  locale : List String := []
  /-- What longer lists of languages have left behind the end of the list. -/
  spare : List String := []
  /-- Log how statements are read. -/
  verbose : Bool := false
  listing : Options := {}
deriving DecidableEq

namespace Settings

/-- A letter without its case. The long s and the kelvin sign are forms of plain letters. -/
def plainLetter (c : Char) : Char :=
  if c = '\u017F' then 's' else if c = '\u212A' then 'k' else c.toLower

/-- Whether a name is that of a setting, which is in plain letters. -/
def isName (setting name : String) : Bool :=
  name.toList.map plainLetter == setting.toList

inductive Choice where
  | simulator
  | shiftKey
  | onePerLine
deriving DecidableEq

namespace Choice

def name : Choice → String
  | simulator => "simulator"
  | shiftKey => "prefix_key"
  | onePerLine => "one_mnemonic_per_line"

def ofName? (text : String) : Option Choice :=
  [simulator, shiftKey, onePerLine].find? fun choice => isName choice.name text

def set (value : Bool) (options : Options) : Choice → Options
  | simulator => { options with simulator := value }
  | shiftKey => { options with shiftKey := value }
  | onePerLine => { options with onePerLine := value }

end Choice

inductive Part where
  | locale
  | verbose
  | listing
deriving DecidableEq

namespace Part

def name : Part → String
  | locale => "locale"
  | verbose => "verbose"
  | listing => "listing"

def ofName? (text : String) : Option Part :=
  [locale, verbose, listing].find? fun part => isName part.name text

end Part

inductive Mismatch where
  | incompatible (found destination : String)
  | notTable (found : String)
deriving DecidableEq

/-- A value of the wrong kind; the line is zero if the key has none. -/
structure TypeError where
  key : Key
  line : Nat
  mismatch : Mismatch

def Mismatch.message : Mismatch → String
  | incompatible found destination =>
    "incompatible types: TOML value has type " ++ found ++ "; destination has type " ++ destination
  | notTable found => "type mismatch for mnemonic.Options: expected table but found " ++ found

def TypeError.message (error : TypeError) : String :=
  "toml: " ++ (if error.line = 0 then "" else "line " ++ toString error.line ++ " ")
    ++ "(last key " ++ Text.quote (keyText error.key) ++ "): " ++ error.mismatch.message

/-- The order in which the members of tables are applied. Any order is possible, and another one at each key. -/
structure Order where
  arrange : Key → Members → Members
  perm : ∀ key members, (arrange key members).Perm members

def Order.document : Order where
  arrange _ members := members
  perm _ _ := .refl _

/-- Writes the texts of a list over the room that there is for them, up to the first item that is none. Also the kind
of that item. -/
def fill : List Value → List String → List String × Option String
  | [], room => (room, none)
  | .text value :: items, room =>
    let (rest, fault) := fill items room.tail
    (value :: rest, fault)
  | value :: _, room => (room, some value.kindName)

/-- Sets the languages. A list that is not longer than those before it is written over them. -/
def setLocale (settings : Settings) (items : List Value) : Settings × Option String :=
  let held := settings.locale ++ settings.spare
  let room := if held.length < items.length then List.replicate items.length "" else held
  let (texts, fault) := fill items room
  ({ settings with locale := texts.take items.length, spare := texts.drop items.length }, fault)

def items? : Value → Option (List Value)
  | .array items => some items
  | .tables items => some (items.map .table)
  | _ => none

/-- Applies the members of the table of listings, which has the name `outer`. -/
def decodeListing (document : Document) (outer : String) :
    Members → Options → Options × Option TypeError
  | [], options => (options, none)
  | (name, value) :: rest, options =>
    match Choice.ofName? name with
    | none => decodeListing document outer rest options
    | some choice =>
      match value with
      | .bool b => decodeListing document outer rest (choice.set b options)
      | _ =>
        (options, some
          { key := [outer, name]
            line := document.lineOf [outer, name]
            mismatch := .incompatible value.kindName "boolean" })

/-- Applies the value of a part of the settings, which has the name `name`. -/
def decodePart (order : Order) (document : Document) (name : String) (value : Value) (settings : Settings) :
    Part → Settings × Option TypeError
  | .locale =>
    let error (found destination : String) : TypeError :=
      ⟨[name], document.lineOf [name], .incompatible found destination⟩
    match items? value with
    | none => (settings, some (error value.kindName "slice"))
    | some items =>
      let (settings, fault) := settings.setLocale items
      (settings, fault.map (error · "string"))
  | .verbose =>
    match value with
    | .bool b => ({ settings with verbose := b }, none)
    | _ =>
      (settings, some ⟨[name], document.lineOf [name], .incompatible value.kindName "boolean"⟩)
  | .listing =>
    match value with
    | .table members =>
      let (listing, error) := decodeListing document name (order.arrange [name] members) settings.listing
      ({ settings with listing := listing }, error)
    | _ => (settings, some ⟨[name], document.lineOf [name], .notTable value.kindName⟩)

/-- Applies the members of a document one by one, up to the first that has the wrong type. -/
def decodeMembers (order : Order) (document : Document) : Members → Settings → Settings × Option TypeError
  | [], settings => (settings, none)
  | (name, value) :: rest, settings =>
    match Part.ofName? name with
    | none => decodeMembers order document rest settings
    | some part =>
      match decodePart order document name value settings part with
      | (settings, some error) => (settings, some error)
      | (settings, none) => decodeMembers order document rest settings

/-- Whether a key is that of a setting or of the table of listings. -/
def isKnown : Key → Bool
  | [name] => (Part.ofName? name).isSome
  | [outer, name] => Part.ofName? outer == some .listing && (Choice.ofName? name).isSome
  | _ => false

/-- Why a text cannot be applied, in the order in which it is found out. -/
inductive DecodeError where
  | malformed (error : SyntaxError)
  | mistyped (error : TypeError)
  | unknown (key : Key)

def DecodeError.message : DecodeError → String
  | malformed error => error.message
  | mistyped error => error.message
  | unknown key => "'" ++ keyText key ++ "' is not a setting"

/-- Applies a text to settings. What it names is applied even if there are unknown keys, of which the first
is reported. -/
def decode (settings : Settings) (text : String) (order : Order := .document) : Settings × Option DecodeError :=
  match Document.read text with
  | .error error => (settings, some (.malformed error))
  | .ok document =>
    match decodeMembers order document (order.arrange [] document.root) settings with
    | (settings, some error) => (settings, some (.mistyped error))
    | (settings, none) => (settings, (document.keys.find? fun key => !isKnown key).map .unknown)

def apply (settings : Settings) (conv : Converter) : Converter :=
  { conv with options := settings.listing, verbose := settings.verbose }

end Settings

end Keystroke
