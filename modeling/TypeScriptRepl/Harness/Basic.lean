import TypeScriptRepl.Export.Extraction
import TypeScriptRepl.Harness.Block

/-!
Harnesses: the text of a module followed by a block that exports its names and starts a session in
which they are known.
-/
namespace TypeScriptRepl

/-- A program that can be run: its text, the names that are known in its session, and the number of
the export statements in it. -/
structure Harness where
  text : String
  symbols : List String
  exportCount : Nat
deriving Repr, DecidableEq, Inhabited

namespace Harness

def synthesize (source : String) (statements : List String) (symbols : SymbolSet)
    (o : Options) : Harness :=
  let cs := source.toList
  ⟨String.ofList (cs ++ separator cs ++ block statements symbols o), symbols.names,
    statements.length⟩

/-- The harness that exports every name of a source text. -/
def prepare (source : String) (o : Options) : Except ParseError Harness :=
  (Extraction.ofSource source).map fun e => synthesize source e.statementTexts e.symbols o

end Harness
end TypeScriptRepl
