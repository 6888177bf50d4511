/-!
Programs: the imports, exports and runtime declarations in the outermost scope of a module. Nothing
of function bodies, class bodies or initializers is kept.
-/
namespace TypeScriptRepl

/-- Where an item stands: a half-open range of bytes, and the line and column of its first
character, both counted from 1. Columns count characters. -/
structure Span where
  start : Nat
  stop : Nat
  line : Nat
  column : Nat
deriving Repr, DecidableEq, Inhabited

/-- What introduces a name. A namespace is one that holds runtime values. -/
inductive DeclarationKind where
  | function
  | variable
  | classDefinition
  | enum
  | namespace
  | importedBinding
deriving Repr, DecidableEq, Inhabited

/-- A name of the outermost scope; `exported` says whether the module exports it under itself. -/
structure Declaration where
  name : String
  kind : DeclarationKind
  exported : Bool
  span : Span
deriving Repr, DecidableEq, Inhabited

/-- A name that an import binds. -/
structure ImportBinding where
  name : String
  span : Span
deriving Repr, DecidableEq, Inhabited

structure Import where
  bindings : List ImportBinding
  span : Span
deriving Repr, DecidableEq, Inhabited

/-- `name` is known in this module, or in the source module of the clause; importers see
`exportedAs`. -/
structure ExportSpecifier where
  name : String
  exportedAs : String
deriving Repr, DecidableEq, Inhabited

/-- An export clause. A clause with a source module passes on what that module exports. -/
structure ExportList where
  specifiers : List ExportSpecifier
  source : Option String
  span : Span
deriving Repr, DecidableEq, Inhabited

def ExportList.isReexport (l : ExportList) : Bool := l.source.isSome

inductive Item where
  | imports (i : Import)
  | declares (d : Declaration)
  | exports (l : ExportList)
deriving Repr, DecidableEq, Inhabited

structure Program where
  items : List Item
  span : Span
deriving Repr, DecidableEq, Inhabited

namespace Program

def declarations (p : Program) : List Declaration :=
  p.items.filterMap fun
    | .declares d => some d
    | _ => none

def exportLists (p : Program) : List ExportList :=
  p.items.filterMap fun
    | .exports l => some l
    | _ => none

end Program
end TypeScriptRepl
