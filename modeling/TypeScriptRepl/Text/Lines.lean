/-! Lines: a line feed ends a line, and a carriage return before it belongs to the end. -/
namespace TypeScriptRepl.Text

def splitLines : List Char → List Char → List (List Char)
  | [], [] => []
  | [], line => [line.reverse]
  | '\n' :: rest, '\r' :: line => line.reverse :: splitLines rest []
  | '\n' :: rest, line => line.reverse :: splitLines rest []
  | c :: rest, line => splitLines rest (c :: line)

/-- The lines of a text. There is none after the last line feed. -/
def lines (cs : List Char) : List (List Char) := splitLines cs []

/-- The line of a number, counted from 1. -/
def line? (cs : List Char) : Nat → Option (List Char)
  | 0 => none
  | n + 1 => (lines cs)[n]?

end TypeScriptRepl.Text
