/-! Inline markup: classed spans around text whose special characters are written as entities. -/
namespace Keystroke.Markup

/-- The entity of a special character, any other character as it is. -/
def entity (c : Char) : List Char :=
  if c = '&' then "&amp;".toList
  else if c = '<' then "&lt;".toList
  else if c = '>' then "&gt;".toList
  else [c]

def escape (text : String) : String :=
  String.ofList (text.toList.flatMap entity)

def span (className text : String) : String :=
  "<span class=\"" ++ className ++ "\">" ++ text ++ "</span>"

def error (text : String) : String :=
  span "MCerror" text

/-- The span of a command, given as plain text. -/
def command (text : String) : String :=
  span "MCcommand" (escape text)

/-- The span of an argument, given as escaped text. -/
def argument (text : String) : String :=
  span "MCargument" text

end Keystroke.Markup
