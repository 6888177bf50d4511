/-! Colors of terminal output. -/
namespace TypeScriptRepl.Report

/-- A text between the escape that turns a rendition on and the one that turns it off. -/
def paint (color : Bool) (rendition text : String) : String :=
  if color then "\x1b[" ++ rendition ++ "m" ++ text ++ "\x1b[0m" else text

/-- Output is colored unless `NO_COLOR` has a value that is not empty. -/
def colorEnabled (noColor : Option String) : Bool := (noColor.getD "").isEmpty

def red (color : Bool) : String → String := paint color "31"

def yellow (color : Bool) : String → String := paint color "33"

def cyan (color : Bool) : String → String := paint color "36"

def gray (color : Bool) : String → String := paint color "90"

def bold (color : Bool) : String → String := paint color "1"

/-- The text with blanks before it, to a width of at least `width` characters. -/
def padLeft (width : Nat) (text : String) : String :=
  String.ofList (List.replicate (width - text.length) ' ') ++ text

/-- What was done to a file: the label is bold and green, and stands at the right of its column. -/
def statusLabel (color : Bool) (label : String) : String := paint color "1;32" (padLeft 12 label)

end TypeScriptRepl.Report
