import TypeScriptRepl.Export.Table
import TypeScriptRepl.Program.Parse

/-! The names that a program binds, and the statements that export those it does not. -/
namespace TypeScriptRepl

/-- Every name that an item binds, in order. -/
def Item.bindings : Item → List Declaration
  | .imports i => i.bindings.map fun b => ⟨b.name, .importedBinding, false, b.span⟩
  | .declares d => [d]
  | .exports _ => []

/-- Every name that the program binds, in order. A name can occur more than once. -/
def Program.bindings (p : Program) : List Declaration := p.items.flatMap Item.bindings

/-- One declaration for each name, of which `exported` says whether it is exposed; the names that
importers see; one statement for each name that is not exposed; and all names. -/
structure Extraction where
  declarations : List Declaration
  exported : SymbolSet
  statements : List ExportStatement
  symbols : SymbolSet
deriving Inhabited

namespace Extraction

/-- Records a name. Its first occurrence counts. -/
def record (t : ExportTable) (e : Extraction) (d : Declaration) : Extraction :=
  if e.symbols.contains d.name then e
  else
    let statement := t.statementFor? d.name
    { e with
      declarations := e.declarations ++ [{ d with exported := statement.isNone }]
      statements := e.statements ++ statement.toList
      symbols := e.symbols.insert d.name }

def ofProgram (p : Program) : Extraction :=
  let t := ExportTable.ofProgram p
  p.bindings.foldl (record t) ⟨[], t.names, [], .empty⟩

/-- The extraction of a text. -/
def ofSource (source : String) : Except ParseError Extraction :=
  (Program.parse source).map ofProgram

/-- The text of the export statements. -/
def statementTexts (e : Extraction) : List String := e.statements.map (·.text)

/-- A text with its export statements added, one to a line. -/
def augment (source : String) (e : Extraction) : String :=
  source ++ "\n" ++ "\n".intercalate e.statementTexts ++ "\n"

end Extraction
end TypeScriptRepl
