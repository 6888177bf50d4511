import TypeScriptRepl.Program.Scan
import TypeScriptRepl.Syntax.Parser
import TypeScriptRepl.Text.Blank

/-! The program of a text, or the first place where the text is no TypeScript. -/
namespace TypeScriptRepl

open Syntax Text

/-- Why a text has no program. Lines and columns count from 1. -/
inductive ParseError where
  | noTree
  | unexpected (found : String) (line column : Nat)
  | missing (expected : String) (line column : Nat)
deriving Repr, DecidableEq, Inhabited

namespace ParseError

private def place (line column : Nat) : String := s!" at line {line}, col {column}"

def message : ParseError → String
  | .noTree => "the parser returned no syntax tree"
  | .unexpected found line column => "syntax error" ++ place line column ++ " near '" ++ found ++ "'"
  | .missing expected line column => "missing '" ++ expected ++ "'" ++ place line column

/-- How much of the text that fits nowhere is shown. -/
def maxFound : Nat := 40

/-- The error that a node stands for. Of text that fits nowhere, the first line counts. -/
def ofNode (source : List Char) (n : Node) : ParseError :=
  let s := n.span source
  if n.isMissing then .missing n.kind.name s.line s.column
  else
    let found := trimEnd ((n.text source).takeWhile (· ≠ '\n'))
    .unexpected (String.ofList (found.take maxFound)) s.line s.column

end ParseError

namespace Program

/-- The program of the syntax tree of a text. -/
def ofTree (source : List Char) (root : Node) : Except ParseError Program :=
  if root.hasError then .error (.ofNode source (root.firstError?.getD root))
  else .ok ⟨root.namedChildren.flatMap (·.items source), root.span source⟩

def parse (source : String) : Except ParseError Program :=
  let text := source.toList
  match Syntax.parse text with
  | none => .error .noTree
  | some t => ofTree text t.toTree

end Program
end TypeScriptRepl
