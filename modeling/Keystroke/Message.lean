/-! Messages made from a pattern: every `%v` takes the next argument and `%%` is a percent sign. -/
namespace Keystroke.Message

/-- The arguments that a pattern leaves over, as they are reported. -/
def surplus (args : List String) : String :=
  "%!(EXTRA " ++ ", ".intercalate (args.map ("string=" ++ ·)) ++ ")"

/-- Fills a pattern. `used` says whether an argument was taken before; left over arguments are reported
only then. -/
def fillChars (used : Bool) : List Char → List String → List Char
  | '%' :: '%' :: rest, args => '%' :: fillChars used rest args
  | '%' :: 'v' :: rest, arg :: args => arg.toList ++ fillChars true rest args
  | '%' :: 'v' :: rest, [] => "%!v(MISSING)".toList ++ fillChars used rest []
  | ['%'], args => "%!(NOVERB)".toList ++ fillChars used [] args
  | c :: rest, args => c :: fillChars used rest args
  | [], args => if used && !args.isEmpty then (surplus args).toList else []

def fill (pattern : String) (args : List String) : String :=
  String.ofList (fillChars false pattern.toList args)

end Keystroke.Message
