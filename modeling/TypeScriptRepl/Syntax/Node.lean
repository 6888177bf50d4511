import TypeScriptRepl.Syntax.Subtree

/-! Syntax trees: the nodes of a text as they show, with the roles of children. -/
namespace TypeScriptRepl.Syntax

open Grammar Text

/-- The kinds of nodes. `error` covers text that fits nowhere, `token` is punctuation or a keyword,
and `other` has the name of any construct that is not listed. -/
inductive NodeKind where
  | error
  | token (text : String)
  | other (name : String)
  | abstractClassDeclaration
  | ambientDeclaration
  | arrayPattern
  | assignmentPattern
  | classExpression
  | classDeclaration
  | comment
  | enumDeclaration
  | exportClause
  | exportSpecifier
  | exportStatement
  | expressionStatement
  | function
  | functionDeclaration
  | functionExpression
  | functionSignature
  | generatorFunction
  | generatorFunctionDeclaration
  | identifier
  | importAlias
  | importClause
  | importRequireClause
  | importSpecifier
  | importStatement
  | interfaceDeclaration
  | internalModule
  | lexicalDeclaration
  | module
  | namedImports
  | namespaceExport
  | namespaceImport
  | objectAssignmentPattern
  | objectPattern
  | pairPattern
  | restPattern
  | shorthandPropertyIdentifierPattern
  | string
  | typeAliasDeclaration
  | variableDeclaration
  | variableDeclarator
deriving Repr, DecidableEq, Inhabited

namespace NodeKind

private def named : List (String × NodeKind) := [
  ("abstract_class_declaration", .abstractClassDeclaration),
  ("ambient_declaration", .ambientDeclaration),
  ("array_pattern", .arrayPattern),
  ("assignment_pattern", .assignmentPattern),
  ("class", .classExpression),
  ("class_declaration", .classDeclaration),
  ("comment", .comment),
  ("enum_declaration", .enumDeclaration),
  ("export_clause", .exportClause),
  ("export_specifier", .exportSpecifier),
  ("export_statement", .exportStatement),
  ("expression_statement", .expressionStatement),
  ("function", .function),
  ("function_declaration", .functionDeclaration),
  ("function_expression", .functionExpression),
  ("function_signature", .functionSignature),
  ("generator_function", .generatorFunction),
  ("generator_function_declaration", .generatorFunctionDeclaration),
  ("identifier", .identifier),
  ("import_alias", .importAlias),
  ("import_clause", .importClause),
  ("import_require_clause", .importRequireClause),
  ("import_specifier", .importSpecifier),
  ("import_statement", .importStatement),
  ("interface_declaration", .interfaceDeclaration),
  ("internal_module", .internalModule),
  ("lexical_declaration", .lexicalDeclaration),
  ("module", .module),
  ("named_imports", .namedImports),
  ("namespace_export", .namespaceExport),
  ("namespace_import", .namespaceImport),
  ("object_assignment_pattern", .objectAssignmentPattern),
  ("object_pattern", .objectPattern),
  ("pair_pattern", .pairPattern),
  ("rest_pattern", .restPattern),
  ("shorthand_property_identifier_pattern", .shorthandPropertyIdentifierPattern),
  ("string", .string),
  ("type_alias_declaration", .typeAliasDeclaration),
  ("variable_declaration", .variableDeclaration),
  ("variable_declarator", .variableDeclarator)]

/-- The kind of a construct of the grammar. -/
def ofName (name : String) : NodeKind := (named.lookup name).getD (.other name)

/-- What the kind is called. -/
def name : NodeKind → String
  | .error => "ERROR"
  | .token text => text
  | .other name => name
  | k => ((named.find? (·.2 = k)).map (·.1)).getD ""

/-- The kind under which a symbol shows. -/
def ofSymbol (x : Symbol) : NodeKind :=
  if x = Symbol.error then .error
  else
    match x.entry with
    | .node name => ofName name
    | .token text => .token text
    | .hidden name => .token name

end NodeKind

/-- The bytes a node covers, and the row and byte column of the first. -/
structure Range where
  start : Nat
  stop : Nat
  row : Nat
  column : Nat
deriving Repr, DecidableEq, Inhabited

/-- What is known of a node without its children. `hasError` says whether the node, or one below it,
is an error or missing. -/
structure Node.Info where
  kind : NodeKind
  field : Option Field
  range : Range
  isMissing : Bool
  hasError : Bool
deriving Repr, DecidableEq, Inhabited

inductive Node where
  | mk (info : Node.Info) (children : List Node)
deriving Repr, Inhabited

namespace Node

def info : Node → Info
  | mk i _ => i

def children : Node → List Node
  | mk _ cs => cs

def kind (n : Node) : NodeKind := n.info.kind

def range (n : Node) : Range := n.info.range

def isError (n : Node) : Bool := n.kind = .error

def isMissing (n : Node) : Bool := n.info.isMissing

def hasError (n : Node) : Bool := n.info.hasError

/-- Whether the node is neither punctuation nor a keyword. -/
def isNamed (n : Node) : Bool :=
  match n.kind with
  | .token _ => false
  | _ => true

/-- The named nodes of a list, comments left out. -/
def namedOf (ns : List Node) : List Node := ns.filter fun n => n.isNamed && n.kind ≠ .comment

/-- The named children, comments left out. -/
def namedChildren (n : Node) : List Node := namedOf n.children

/-- The first named child of a kind. -/
def firstNamed? (n : Node) (k : NodeKind) : Option Node := n.namedChildren.find? (·.kind = k)

/-- Whether a piece of punctuation or a keyword stands right below the node. -/
def hasToken (n : Node) (text : String) : Bool := n.children.any (·.kind = .token text)

/-- The first child in a role. -/
def child? (n : Node) (f : Field) : Option Node := n.children.find? (·.info.field = some f)

end Node

namespace Subtree

private def rangeOf (t : Subtree) (start : Extent) : Range :=
  ⟨start.bytes, (start + t.info.size).bytes, start.rows, start.columns⟩

mutual
/-- The node that a subtree shows as, if its text begins at `start`. -/
def toNode (t : Subtree) (start : Extent) (shownAs : Symbol) (field : Option Field) : Node :=
  match t with
  | .node i cs =>
    .mk ⟨.ofSymbol shownAs, field, rangeOf (.node i cs) start, i.isMissing, 0 < i.cost⟩
      (showAll cs start (shape i.shape) none 0 true [])

/-- The nodes that subtrees show as, before those in `after`. Hidden subtrees are replaced by what
is below them; `inherited` is the role of a hidden parent. -/
def showAll (ts : List Subtree) (position : Extent) (s : Shape) (inherited : Option Field)
    (index : Nat) (first : Bool) (after : List Node) : List Node :=
  match ts with
  | [] => after
  | .node i cs :: ts =>
    let start := if first then position else position + i.padding
    let index' := if i.isExtra then index else index + 1
    let rest := showAll ts (start + i.size) s inherited index' false after
    let shownAs := if i.isExtra then none else s.aliasAt index
    let field := if i.isExtra then none else (s.fieldAt index).orElse fun _ => inherited
    if shownAs.isSome || i.isVisible then
      toNode (.node i cs) start (shownAs.getD i.symbol) field :: rest
    else showAll cs start (shape i.shape) field 0 true rest
end

/-- The syntax tree of a text. -/
def toTree (t : Subtree) : Node := t.toNode t.info.padding t.symbol none

end Subtree
end TypeScriptRepl.Syntax
