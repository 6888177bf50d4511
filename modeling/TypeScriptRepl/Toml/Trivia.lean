import TypeScriptRepl.Toml.Reader

/-! Blanks, line ends and comments. -/
namespace TypeScriptRepl.Toml

open Reader

def isBlank (c : Char) : Bool := c = ' ' || c = '\t'

def isDigit (c : Char) : Bool := '0' ≤ c && c ≤ '9'

def isHexDigit (c : Char) : Bool := isDigit c || ('a' ≤ c && c ≤ 'f') || ('A' ≤ c && c ≤ 'F')

/-- Whether a character may stand anywhere but at a line end. -/
def isPlain (c : Char) : Bool := c = '\t' || (' ' ≤ c && c ≠ '\x7f')

def blanks : Reader Unit := do let _ ← takeWhile isBlank

def newline : Reader Unit := orElse (word "\n") (word "\r\n")

def comment : Reader Unit := do
  word "#"
  let _ ← takeWhile isPlain

/-- The rest of a line that has nothing more to say. -/
def lineTrailing : Reader Unit := do
  blanks
  let _ ← attempt comment
  orElse newline atEnd

/-- What may stand between the members of an array. -/
def gap : Reader Unit := do
  let _ ← many do
    blanks
    match (← rest).head? with
    | some '#' => commit do comment; newline
    | some '\n' | some '\r' => commit newline
    | _ => fail
  blanks

end TypeScriptRepl.Toml
