import TypeScriptRepl.Json.Basic
import TypeScriptRepl.Program.Basic

/-!
Programs as JSON values. A record may also be given as the list of its fields, keys that a record
does not have are ignored, and a clause without a source module may leave it out.
-/
namespace TypeScriptRepl

namespace Span

def toJson (s : Span) : Json :=
  .object [("start", .integer s.start), ("end", .integer s.stop), ("line", .integer s.line),
    ("col", .integer s.column)]

def ofJson? (j : Json) : Option Span := do
  let r ← j.record? ["start", "end", "line", "col"]
  let start ← r.field? Json.word? "start"
  let stop ← r.field? Json.word? "end"
  let line ← r.field? Json.word? "line"
  let column ← r.field? Json.word? "col"
  return ⟨start, stop, line, column⟩

end Span

namespace DeclarationKind

def text : DeclarationKind → String
  | .function => "function"
  | .variable => "variable"
  | .classDefinition => "class"
  | .enum => "enum"
  | .namespace => "namespace"
  | .importedBinding => "imported-binding"

def ofText? (s : String) : Option DeclarationKind :=
  [.function, .variable, .classDefinition, .enum, .namespace, .importedBinding].find? (·.text = s)

/-- A kind is its text, or an object that has nothing but null under this text. -/
def ofJson? : Json → Option DeclarationKind
  | .string s => ofText? s
  | .object [(s, .null)] => ofText? s
  | _ => none

end DeclarationKind

namespace Declaration

def toJson (d : Declaration) : Json :=
  .object [("name", .string d.name), ("kind", .string d.kind.text), ("exported", .bool d.exported),
    ("span", d.span.toJson)]

def ofJson? (j : Json) : Option Declaration := do
  let r ← j.record? ["name", "kind", "exported", "span"]
  let name ← r.field? Json.string? "name"
  let kind ← r.field? DeclarationKind.ofJson? "kind"
  let exported ← r.field? Json.bool? "exported"
  let span ← r.field? Span.ofJson? "span"
  return ⟨name, kind, exported, span⟩

end Declaration

namespace ImportBinding

def toJson (b : ImportBinding) : Json := .object [("local", .string b.name), ("span", b.span.toJson)]

def ofJson? (j : Json) : Option ImportBinding := do
  let r ← j.record? ["local", "span"]
  let name ← r.field? Json.string? "local"
  let span ← r.field? Span.ofJson? "span"
  return ⟨name, span⟩

end ImportBinding

namespace Import

def toJson (i : Import) : Json :=
  .object [("bindings", .array (i.bindings.map (·.toJson))), ("span", i.span.toJson)]

def ofJson? (j : Json) : Option Import := do
  let r ← j.record? ["bindings", "span"]
  let bindings ← r.field? (Json.list? ImportBinding.ofJson?) "bindings"
  let span ← r.field? Span.ofJson? "span"
  return ⟨bindings, span⟩

end Import

namespace ExportSpecifier

def toJson (s : ExportSpecifier) : Json :=
  .object [("local", .string s.name), ("exported", .string s.exportedAs)]

def ofJson? (j : Json) : Option ExportSpecifier := do
  let r ← j.record? ["local", "exported"]
  let name ← r.field? Json.string? "local"
  let exportedAs ← r.field? Json.string? "exported"
  return ⟨name, exportedAs⟩

end ExportSpecifier

namespace ExportList

def toJson (l : ExportList) : Json :=
  .object [("specifiers", .array (l.specifiers.map (·.toJson))),
    ("source", .ofOption .string l.source), ("span", l.span.toJson)]

def ofJson? (j : Json) : Option ExportList := do
  let r ← j.record? ["specifiers", "source", "span"]
  let specifiers ← r.field? (Json.list? ExportSpecifier.ofJson?) "specifiers"
  let source ← r.fieldOr? (Json.option? Json.string?) none "source"
  let span ← r.field? Span.ofJson? "span"
  return ⟨specifiers, source, span⟩

end ExportList

namespace Item

def toJson : Item → Json
  | imports i => .object [("Import", i.toJson)]
  | declares d => .object [("Declaration", d.toJson)]
  | exports l => .object [("ExportList", l.toJson)]

def ofJson? : Json → Option Item
  | .object [(key, j)] =>
    if key = "Import" then (Import.ofJson? j).map imports
    else if key = "Declaration" then (Declaration.ofJson? j).map declares
    else if key = "ExportList" then (ExportList.ofJson? j).map exports
    else none
  | _ => none

end Item

namespace Program

def toJson (p : Program) : Json :=
  .object [("items", .array (p.items.map (·.toJson))), ("span", p.span.toJson)]

def ofJson? (j : Json) : Option Program := do
  let r ← j.record? ["items", "span"]
  let items ← r.field? (Json.list? Item.ofJson?) "items"
  let span ← r.field? Span.ofJson? "span"
  return ⟨items, span⟩

end Program
end TypeScriptRepl
