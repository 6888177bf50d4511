import TypeScriptRepl.Export.SymbolSet
import TypeScriptRepl.Program.Basic

/-! What the export clauses of a program do with each name, and what it takes to export the rest. -/
namespace TypeScriptRepl

/-- The beginning of every name that a harness adds to a module. -/
def internalPrefix : String := "__ts_repl__"

/-- The name under which a harness exports `name` if another export has that name. -/
def internalName (name : String) : String := internalPrefix ++ name

/-- An export clause with one specifier. -/
inductive ExportStatement where
  /-- Exports a name as itself. -/
  | plain (name : String)
  /-- Exports a name as its internal name. -/
  | hidden (name : String)
deriving Repr, DecidableEq, Inhabited

namespace ExportStatement

def name : ExportStatement → String
  | plain n => n
  | hidden n => n

/-- What the statement spells between its braces. -/
def specifier : ExportStatement → ExportSpecifier
  | plain n => ⟨n, n⟩
  | hidden n => ⟨n, internalName n⟩

def text : ExportStatement → String
  | plain n => "export \x7b " ++ n ++ " \x7d;"
  | hidden n => "export \x7b " ++ n ++ " as " ++ internalName n ++ " \x7d;"

end ExportStatement

/-- `names` are the names that importers see, `exposed` the names of this module that are among
them for themselves, and `taken` the names among them that stand for something else. -/
structure ExportTable where
  names : SymbolSet
  exposed : List String
  taken : List String
deriving Inhabited

namespace ExportTable

def empty : ExportTable := ⟨.empty, [], []⟩

/-- A specifier of a clause that passes exports of another module on claims the exported name. -/
def addSpecifier (reexport : Bool) (t : ExportTable) (s : ExportSpecifier) : ExportTable :=
  let t := { t with names := t.names.insert s.exportedAs }
  if reexport then { t with exposed := s.exportedAs :: t.exposed }
  else if s.name = s.exportedAs then { t with exposed := s.name :: t.exposed }
  else if internalPrefix.toList.isPrefixOf s.exportedAs.toList then
    if s.exportedAs = internalName s.name then { t with exposed := s.name :: t.exposed } else t
  else { t with taken := s.exportedAs :: t.taken }

def addItem (t : ExportTable) : Item → ExportTable
  | .imports _ => t
  | .declares d =>
    if d.exported then { t with names := t.names.insert d.name, exposed := d.name :: t.exposed }
    else t
  | .exports l => l.specifiers.foldl (addSpecifier l.isReexport) t

def ofProgram (p : Program) : ExportTable := p.items.foldl addItem empty

/-- The statement that exports a name, if it is not exposed. -/
def statementFor? (t : ExportTable) (name : String) : Option ExportStatement :=
  if t.exposed.contains name then none
  else if t.taken.contains name then some (.hidden name)
  else some (.plain name)

end ExportTable
end TypeScriptRepl
