import TypeScriptRepl.Program.Parse
import TypeScriptRepl.Report.EditDistance
import TypeScriptRepl.Report.Style
import TypeScriptRepl.Text.Lines

/-! Reports of errors, with the line of the text in which they are. -/
namespace TypeScriptRepl.Report

open Text

/-- An error with what is needed to show it. `underline` stands below `sourceLine`. -/
structure Diagnostic where
  code : Option String
  message : String
  file : String
  line : Option Nat
  column : Option Nat
  sourceLine : Option String
  underline : Option String
  suggestions : List String
deriving Repr, DecidableEq, Inhabited

namespace Diagnostic

def location (d : Diagnostic) : String :=
  match d.line, d.column with
  | some line, some column => d.file ++ ":" ++ toString line ++ ":" ++ toString column
  | _, _ => d.file

def excerpt (color : Bool) (d : Diagnostic) : String :=
  let gutter := cyan color "|"
  match d.line, d.sourceLine, d.underline with
  | some line, some text, some underline =>
    "   " ++ gutter ++ "\n" ++
      padLeft 3 (cyan color (toString line)) ++ " " ++ gutter ++ " " ++ text ++ "\n" ++
      "   " ++ gutter ++ " " ++ red color underline ++ "\n"
  | _, _, _ => ""

def help (color : Bool) (d : Diagnostic) : String :=
  if d.suggestions.isEmpty then ""
  else
    "   " ++ cyan color "|" ++ "\n" ++
      String.join (d.suggestions.map fun s =>
        "   " ++ cyan color "=" ++ " " ++ cyan color "help" ++ ": " ++ s ++ "\n")

def render (color : Bool) (d : Diagnostic) : String :=
  red color "error" ++
    ((d.code.map fun c => "[" ++ bold color c ++ "]").getD "") ++
    ": " ++ bold color d.message ++ "\n" ++
    "  " ++ cyan color "-->" ++ " " ++ d.location ++ "\n" ++
    d.excerpt color ++ d.help color

/-- Blanks up to a column, and carets below the characters from there. -/
def carets (column length : Nat) : String :=
  String.ofList (List.replicate (column - 1) ' ' ++ List.replicate (max length 1) '^')

/-- A report that points at a place of a text. -/
def at_ (code message file : String) (source : List Char) (line column length : Nat)
    (suggestions : List String) : Diagnostic :=
  let sourceLine := (line? source line).map String.ofList
  ⟨code, message, file, line, column, sourceLine, sourceLine.map fun _ => carets column length,
    suggestions⟩

/-- How many characters there are from a column to the end of the line. -/
def restOfLine (source : List Char) (line column : Nat) : Nat :=
  ((line? source line).map fun l => l.length - (column - 1)).getD 1

/-- Words of clauses, of which one may have been meant. -/
def clauseWords : List String := [
  "import", "export", "from", "as", "type", "default", "function", "class", "const", "let",
  "var", "enum", "async", "require", "abstract"]

private def isLetter (c : Char) : Bool := ('a' ≤ c && c ≤ 'z') || ('A' ≤ c && c ≤ 'Z')

/-- What may have been meant by text that fits nowhere. -/
def corrections (found : String) : List String :=
  let word := String.ofList (found.toList.takeWhile isLetter)
  if word.isEmpty || clauseWords.contains word then [] else suggest word clauseWords 2

/-- The report of an error in a text. -/
def ofError (e : ParseError) (source file : String) : Diagnostic :=
  let text := source.toList
  match e with
  | .unexpected found line column =>
    let message := if found.isEmpty then "syntax error" else "unexpected '" ++ found ++ "'"
    at_ "E010" message file text line column (min found.length (restOfLine text line column))
      ((corrections found).map fun w => "did you mean '" ++ w ++ "'?")
  | .missing expected line column =>
    at_ "E011" ("missing '" ++ expected ++ "'") file text line column 1
      ["insert '" ++ expected ++ "' here"]
  | .noTree => ⟨some "E020", e.message, file, none, none, none, none, []⟩

end Diagnostic
end TypeScriptRepl.Report
