import TypeScriptRepl.Program.Basic
import TypeScriptRepl.Syntax.Node
import TypeScriptRepl.Text.Slice

/-! The program of a syntax tree: only the nodes right below the root, and the names they bind. -/
namespace TypeScriptRepl

open Grammar Syntax Text

namespace Syntax.Node

/-- The text that a node covers; none if the tree is not one of this text. -/
def text (source : List Char) (n : Node) : List Char :=
  (slice? source n.range.start n.range.stop).getD []

/-- The span of a node. Where the bytes of its row are no text of their own, they are the column. -/
def span (source : List Char) (n : Node) : Span :=
  let r := n.range
  let column := ((slice? source (r.start - r.column) r.start).map List.length).getD r.column
  ⟨r.start, r.stop, r.row + 1, column + 1⟩

/-- The text that a node covers, as a name. -/
def nameText (source : List Char) (n : Node) : String := String.ofList (n.text source)

private def isQuote (c : Char) : Bool := c = '"' || c = '\''

/-- A name that an export is known by: what a string literal holds, or the text of a name. -/
def exportName (source : List Char) (n : Node) : String :=
  if n.kind = .string then
    String.ofList
      (((n.text source).dropWhile isQuote).reverse.dropWhile isQuote).reverse
  else n.nameText source

mutual
/-- Whether a statement in a namespace makes a value, and not only types. -/
def isValueStatement : Node → Bool
  | .mk i cs =>
    match i.kind with
    | .interfaceDeclaration | .typeAliasDeclaration | .ambientDeclaration => false
    | .enumDeclaration => !(Node.mk i cs).hasToken "const"
    | .internalModule | .module => bodyDeclaresValues cs
    | .expressionStatement => innerNamespaceIsValue cs
    | .exportStatement => exportsValue cs ((Node.mk i cs).hasToken "type")
    | _ => true

/-- Whether the first node in the role of a body holds a statement that makes a value. -/
def bodyDeclaresValues : List Node → Bool
  | [] => false
  | .mk i cs :: ns =>
    if i.field = some .body then anyValueStatement cs else bodyDeclaresValues ns

/-- Whether the first namespace among the nodes is a value; true if there is none. -/
def innerNamespaceIsValue : List Node → Bool
  | [] => true
  | .mk i cs :: ns =>
    if i.kind = .internalModule then isValueStatement (.mk i cs) else innerNamespaceIsValue ns

/-- Whether the first declaration among the nodes of an export is a value. Without one, all that is
not an export of types is. -/
def exportsValue : List Node → Bool → Bool
  | [], typesOnly => !typesOnly
  | .mk i cs :: ns, typesOnly =>
    if i.field = some .declaration then isValueStatement (.mk i cs) else exportsValue ns typesOnly

def anyValueStatement : List Node → Bool
  | [] => false
  | .mk i cs :: ns =>
    ((Node.mk i cs).isNamed && i.kind ≠ .comment && isValueStatement (.mk i cs)) ||
      anyValueStatement ns
end

/-- Whether the body of a namespace declares values. -/
def declaresValues (body : Node) : Bool := anyValueStatement body.children

/-- The declaration that a name node makes. -/
def declaration (source : List Char) (kind : DeclarationKind) (exported : Bool) (n : Node) :
    Declaration :=
  ⟨n.nameText source, kind, exported, n.span source⟩

mutual
/-- The names that the target of a declarator binds, from left to right. -/
def patternNames (source : List Char) (exported : Bool) : Node → List Declaration
  | .mk i cs =>
    match i.kind with
    | .identifier | .shorthandPropertyIdentifierPattern =>
      [(Node.mk i cs).declaration source .variable exported]
    | .pairPattern => roleNames source exported .value cs
    | .assignmentPattern | .objectAssignmentPattern => roleNames source exported .left cs
    | .objectPattern | .arrayPattern | .restPattern => elementNames source exported cs
    | _ => []

/-- The names that the first node in a role binds. -/
def roleNames (source : List Char) (exported : Bool) (f : Field) : List Node → List Declaration
  | [] => []
  | .mk i cs :: ns =>
    if i.field = some f then patternNames source exported (.mk i cs)
    else roleNames source exported f ns

/-- The names that the elements of a pattern bind. -/
def elementNames (source : List Char) (exported : Bool) : List Node → List Declaration
  | [] => []
  | .mk i cs :: ns =>
    (if (Node.mk i cs).isNamed && i.kind ≠ .comment then patternNames source exported (.mk i cs)
      else []) ++ elementNames source exported ns
end

def namedDeclaration (source : List Char) (exported : Bool) (kind : DeclarationKind)
    (n : Node) : List Declaration :=
  (n.child? .name).toList.map (·.declaration source kind exported)

/-- The declaration of a namespace: one with a dotted name, or without values, declares nothing. -/
def namespaceDeclaration (source : List Char) (exported : Bool) (n : Node) :
    List Declaration :=
  let simple := (n.child? .name).any (·.kind = .identifier)
  let runtime := (n.child? .body).any declaresValues
  if simple && runtime then namedDeclaration source exported .namespace n else []

/-- The runtime names that a declaration binds. -/
def declarations (source : List Char) (exported : Bool) (n : Node) : List Declaration :=
  match n.kind with
  | .functionDeclaration | .generatorFunctionDeclaration | .functionSignature =>
    namedDeclaration source exported .function n
  | .classDeclaration | .abstractClassDeclaration => namedDeclaration source exported .classDefinition n
  | .enumDeclaration =>
    if n.hasToken "const" then [] else namedDeclaration source exported .enum n
  | .internalModule | .module => namespaceDeclaration source exported n
  | .expressionStatement =>
    ((n.firstNamed? .internalModule).map (namespaceDeclaration source exported)).getD []
  | .lexicalDeclaration | .variableDeclaration =>
    (n.namedChildren.filter (·.kind = .variableDeclarator)).flatMap fun d =>
      ((d.child? .name).map (patternNames source exported)).getD []
  | _ => []

def binding (source : List Char) (n : Node) : ImportBinding :=
  ⟨n.nameText source, n.span source⟩

def isTypeOnly (n : Node) : Bool := n.hasToken "type" || n.hasToken "typeof"

def specifierBinding (source : List Char) (n : Node) : Option ImportBinding :=
  if n.kind ≠ .importSpecifier || n.isTypeOnly then none
  else
    (((n.child? .alias).orElse fun _ => n.child? .name).filter (·.kind = .identifier)).map
      (binding source)

def clauseBindings (source : List Char) (n : Node) : List ImportBinding :=
  match n.kind with
  | .identifier => [binding source n]
  | .namespaceImport => (n.firstNamed? .identifier).toList.map (binding source)
  | .namedImports => n.namedChildren.filterMap (specifierBinding source)
  | _ => []

/-- The names that a part of an import statement binds. -/
def importBindings (source : List Char) (n : Node) : List ImportBinding :=
  match n.kind with
  | .importClause => n.namedChildren.flatMap (clauseBindings source)
  | .importRequireClause => (n.firstNamed? .identifier).toList.map (binding source)
  | _ => []

def exportSpecifier (source : List Char) (n : Node) : Option ExportSpecifier :=
  if n.kind ≠ .exportSpecifier || n.hasToken "type" then none
  else
    (n.child? .name).map fun name =>
      let own := name.exportName source
      ⟨own, ((n.child? .alias).map (exportName source)).getD own⟩

/-- The specifiers in a part of an export statement. -/
def exportSpecifiers (source : List Char) (n : Node) : List ExportSpecifier :=
  match n.kind with
  | .exportClause => n.namedChildren.filterMap (exportSpecifier source)
  | .namespaceExport =>
    n.namedChildren.head?.toList.map fun name => ⟨"*", name.exportName source⟩
  | _ => []

/-- The name of a function or class that is exported as the default: other modules do not see it. -/
def defaultDeclaration (source : List Char) (value : Node) : List Declaration :=
  match value.kind with
  | .functionExpression | .function | .generatorFunction =>
    namedDeclaration source false .function value
  | .classExpression => namedDeclaration source false .classDefinition value
  | _ => []

/-- The items of an export statement. -/
def exportItems (source : List Char) (n : Node) : List Item :=
  match n.child? .declaration with
  | some d => (d.declarations source (!n.hasToken "default")).map .declares
  | none =>
    match n.child? .value with
    | some value => (defaultDeclaration source value).map .declares
    | none =>
      if n.hasToken "type" then []
      else
        match n.namedChildren.flatMap (exportSpecifiers source) with
        | [] => []
        | specifiers =>
          [.exports ⟨specifiers, (n.child? .source).map (exportName source), n.span source⟩]

/-- The items of a statement in the outermost scope. -/
def items (source : List Char) (n : Node) : List Item :=
  match n.kind with
  | .importStatement =>
    if n.isTypeOnly then []
    else [.imports ⟨n.namedChildren.flatMap (importBindings source), n.span source⟩]
  | .importAlias =>
    (n.firstNamed? .identifier).toList.map fun name =>
      .imports ⟨[binding source name], n.span source⟩
  | .exportStatement => n.exportItems source
  | _ => (n.declarations source false).map .declares

mutual
/-- The first node, in the order of the text, that is an error or missing. -/
def firstError? : Node → Option Node
  | .mk i cs => if i.kind = .error || i.isMissing then some (.mk i cs) else firstErrorIn? cs

def firstErrorIn? : List Node → Option Node
  | [] => none
  | .mk i cs :: ns =>
    if i.hasError then (firstError? (.mk i cs)).orElse fun _ => firstErrorIn? ns
    else firstErrorIn? ns
end

end Syntax.Node

end TypeScriptRepl
