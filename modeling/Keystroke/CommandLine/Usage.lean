import Keystroke.Dump.Table

/-! Arguments of the command line. Flags and other arguments can be mixed; the first argument that is
neither a flag nor the value of one can select a command, to which all flags then belong. -/
namespace Keystroke.CommandLine

inductive Command where
  | list
  | table
  | watch
  | help
deriving DecidableEq

inductive Flag where
  | config
  | output
  | verbose
  | simulator
  | shiftKey
  | onePerLine
  | format
  | help
deriving DecidableEq

namespace Flag

/-- The name after two dashes. -/
def name : Flag → String
  | config => "config"
  | output => "output"
  | verbose => "verbose"
  | simulator => "simulator"
  | shiftKey => "prefix-key"
  | onePerLine => "ompl"
  | format => "format"
  | help => "help"

/-- The letter after one dash, if there is one. -/
def letter? : Flag → Option Char
  | config => some 'c'
  | output => some 'o'
  | verbose => some 'v'
  | help => some 'h'
  | _ => none

/-- A flag that is on or off, and on without a value. -/
def isSwitch : Flag → Bool
  | config | output | format => false
  | _ => true

def usage (flag : Flag) : String :=
  match flag.letter? with
  | some letter => "-" ++ letter.toString ++ ", --" ++ flag.name
  | none => "--" ++ flag.name

end Flag

/-- The flags that a command is declared with. -/
def Command.declared : Command → List Flag
  | .list | .watch => [.config, .output, .verbose, .simulator, .shiftKey, .onePerLine]
  | .table => [.config, .output, .verbose, .format]
  | .help => [.config, .output, .verbose]

/-- The flags of a command that was selected, with the one for help. -/
def Command.flags (command : Command) : List Flag :=
  command.declared ++ [.help]

def Command.flag? (command : Command) (name : String) : Option Flag :=
  command.flags.find? (·.name == name)

def Command.letter? (command : Command) (letter : Char) : Option Flag :=
  command.flags.find? (·.letter? == some letter)

/-- What the arguments ask for. Of a flag given several times the last value counts. -/
structure Choices where
  config : String := ""
  output : String := "-"
  format : String := Dump.Format.json.name
  verbose : Option Bool := none
  simulator : Option Bool := none
  shiftKey : Option Bool := none
  onePerLine : Option Bool := none
  help : Bool := false
  /-- Arguments that are no flags. -/
  files : List String := []

inductive UsageError where
  | malformedFlag (arg : String)
  | unknownFlag (name : String)
  | unknownLetter (letter : Char) (group : String)
  | valueMissing (flag : Flag)
  | letterValueMissing (letter : Char) (group : String)
  | notSwitchValue (flag : Flag) (value : String)
  | tooManyFiles (count : Nat)
  | oneFileWanted (count : Nat)
  | unknownCommand (word : String)
deriving DecidableEq

def UsageError.message : UsageError → String
  | malformedFlag arg => "bad flag syntax: " ++ arg
  | unknownFlag name => "unknown flag: --" ++ name
  | unknownLetter letter group =>
    "unknown shorthand flag: " ++ Text.quoteChar letter ++ " in -" ++ group
  | valueMissing flag => "flag needs an argument: --" ++ flag.name
  | letterValueMissing letter group =>
    "flag needs an argument: " ++ Text.quoteChar letter ++ " in -" ++ group
  | notSwitchValue flag value =>
    "invalid argument " ++ Text.quote value ++ " for " ++ Text.quote flag.usage
      ++ " flag: strconv.ParseBool: parsing " ++ Text.quote value ++ ": invalid syntax"
  | tooManyFiles count => "accepts at most 1 arg(s), received " ++ toString count
  | oneFileWanted count => "accepts 1 arg(s), received " ++ toString count
  | unknownCommand word => "unknown command " ++ Text.quote word ++ " for \"hp15c table\""

def switchValue? (text : String) : Option Bool :=
  if ["1", "t", "T", "TRUE", "true", "True"].contains text then some true
  else if ["0", "f", "F", "FALSE", "false", "False"].contains text then some false
  else none

def Choices.turn (choices : Choices) (value : Bool) : Flag → Choices
  | .verbose => { choices with verbose := some value }
  | .simulator => { choices with simulator := some value }
  | .shiftKey => { choices with shiftKey := some value }
  | .onePerLine => { choices with onePerLine := some value }
  | .help => { choices with help := value }
  | _ => choices

def Choices.set (choices : Choices) (flag : Flag) (value : String) : Except UsageError Choices :=
  match flag with
  | .config => .ok { choices with config := value }
  | .output => .ok { choices with output := value }
  | .format => .ok { choices with format := value }
  | flag =>
    match switchValue? value with
    | some b => .ok (choices.turn b flag)
    | none => .error (.notSwitchValue flag value)

/-- A flag that waits for its value, and the error if none comes. -/
structure Waiting where
  flag : Flag
  error : UsageError

/-- The letter that a message shows for an unknown one, which is the character with the code of its first byte. -/
def shownLetter (letter : Char) : Char :=
  Char.ofNat ((String.utf8EncodeChar letter).headD 0).toNat

def readLetters (command : Command) (choices : Choices) :
    List Char → Except UsageError (Choices × Option Waiting)
  | [] => .ok (choices, none)
  | letter :: rest =>
    let group := String.ofList (letter :: rest)
    if "test.".toList.isPrefixOf (letter :: rest) then .ok (choices, none)
    else
      match command.letter? letter with
      | none => .error (.unknownLetter (shownLetter letter) group)
      | some flag =>
        if rest.head? = some '=' && rest.length ≠ 1 then
          (choices.set flag (String.ofList (rest.drop 1))).map (·, none)
        else if flag.isSwitch then readLetters command (choices.turn true flag) rest
        else if rest.isEmpty then .ok (choices, some ⟨flag, .letterValueMissing letter group⟩)
        else (choices.set flag (String.ofList rest)).map (·, none)

def readName (command : Command) (choices : Choices) (text : List Char) :
    Except UsageError (Choices × Option Waiting) :=
  let name := String.ofList (text.takeWhile (· ≠ '='))
  if text.head? = some '-' || name = "" then .error (.malformedFlag ("--" ++ String.ofList text))
  else
    match command.flag? name with
    | none => .error (.unknownFlag name)
    | some flag =>
      if text.contains '=' then
        (choices.set flag (String.ofList ((text.dropWhile (· ≠ '=')).drop 1))).map (·, none)
      else if flag.isSwitch then .ok (choices.turn true flag, none)
      else .ok (choices, some ⟨flag, .valueMissing flag⟩)

def readArgs (command : Command) (choices : Choices) :
    Option Waiting → List String → Except UsageError Choices
  | none, [] => .ok choices
  | some waiting, [] => .error waiting.error
  | some waiting, value :: rest =>
    match choices.set waiting.flag value with
    | .error error => .error error
    | .ok choices => readArgs command choices none rest
  | none, arg :: rest =>
    match arg.toList with
    | ['-', '-'] => .ok { choices with files := choices.files ++ rest }
    | '-' :: '-' :: text =>
      match readName command choices text with
      | .error error => .error error
      | .ok (choices, waiting) => readArgs command choices waiting rest
    | '-' :: letter :: text =>
      match readLetters command choices (letter :: text) with
      | .error error => .error error
      | .ok (choices, waiting) => readArgs command choices waiting rest
    | _ => readArgs command { choices with files := choices.files ++ [arg] } none rest

/-- Whether the argument after a flag is its value, as far as that is known before a command is selected: by the flags
that `list` is declared with. So help takes an argument as any unknown flag does. -/
def takesNext (arg : String) : Bool :=
  let switches := Command.list.declared.filter Flag.isSwitch
  match arg.toList with
  | '-' :: '-' :: text => !text.contains '=' && switches.all (·.name ≠ String.ofList text)
  | ['-', letter] => letter ≠ '=' && letter.toNat < 0x80 && switches.all (·.letter? ≠ some letter)
  | _ => false

/-- The first argument that is neither a flag nor the value of one, with those before and after it. -/
def firstWord? : List String → Option (List String × String × List String)
  | [] => none
  | [arg] => if takesNext arg || arg = "" || arg.toList.head? = some '-' then none else some ([], arg, [])
  | arg :: next :: rest =>
    if arg = "--" then none
    else if takesNext arg then
      if rest.isEmpty then none
      else (firstWord? rest).map fun (before, word, after) => (arg :: next :: before, word, after)
    else if arg = "" || arg.toList.head? = some '-' then
      (firstWord? (next :: rest)).map fun (before, word, after) => (arg :: before, word, after)
    else some ([], arg, next :: rest)

def Command.ofWord? (word : String) : Option Command :=
  if word = "table" then some .table
  else if word = "watch" then some .watch
  else if ["help", "completion", "__complete", "__completeNoDesc"].contains word then some .help
  else none

/-- The command that the arguments select, and the arguments without its name. -/
def selectCommand (args : List String) : Command × List String :=
  match firstWord? args with
  | some (before, word, after) =>
    match Command.ofWord? word with
    | some command => (command, before ++ after)
    | none => (.list, args)
  | none => (.list, args)

/-- What is wrong with the arguments that are no flags. -/
def Command.filesError? (files : List String) : Command → Option UsageError
  | .list => if 1 < files.length then some (.tooManyFiles files.length) else none
  | .table => files.head?.map .unknownCommand
  | .watch => if files.length = 1 then none else some (.oneFileWanted files.length)
  | .help => none

def readUsage (args : List String) : Except UsageError (Command × Choices) :=
  let (command, args) := selectCommand args
  match readArgs command {} none args with
  | .error error => .error error
  | .ok choices =>
    if choices.help || command = .help then .ok (.help, choices)
    else
      match command.filesError? choices.files with
      | some error => .error error
      | none => .ok (command, choices)

end Keystroke.CommandLine
