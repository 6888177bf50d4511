import TypeScriptRepl.Program.Scan

/-! What the scan looks up below a node: the first child in a role or of a kind, or all of them. -/
namespace TypeScriptRepl.Syntax.Node

open Grammar

variable {n m : Node} {ns : List Node}

/-! Nodes are found among the children, so what holds of a node whenever it holds of its children
holds of all nodes. -/

theorem sizeOf_lt_of_mem_children (h : m ∈ n.children) : sizeOf m < sizeOf n := by
  obtain ⟨i, cs⟩ := n
  have hm := List.sizeOf_lt_of_mem h
  rw [mk.sizeOf_spec]
  simp only [children] at hm
  omega

theorem induction {p : Node → Prop} (step : ∀ n, (∀ c ∈ n.children, p c) → p n) (n : Node) : p n :=
  step n fun c hc =>
    have := sizeOf_lt_of_mem_children hc
    induction step c
termination_by sizeOf n

theorem field_of_child? {f : Field} (h : n.child? f = some m) : m.info.field = some f := by
  simpa using List.find?_some h

theorem mem_of_child? {f : Field} (h : n.child? f = some m) : m ∈ n.children :=
  List.mem_of_find?_eq_some h

theorem kind_of_firstNamed? {k : NodeKind} (h : n.firstNamed? k = some m) : m.kind = k := by
  simpa using List.find?_some h

theorem mem_of_mem_namedChildren (h : m ∈ n.namedChildren) : m ∈ n.children :=
  (List.mem_filter.1 h).1

theorem mem_of_firstNamed? {k : NodeKind} (h : n.firstNamed? k = some m) : m ∈ n.children :=
  mem_of_mem_namedChildren (List.mem_of_find?_eq_some h)

theorem firstNamed?_eq_find?_children {k : NodeKind} (hn : ∀ text, k ≠ .token text)
    (hc : k ≠ .comment) : n.firstNamed? k = n.children.find? (·.kind = k) := by
  rw [firstNamed?, namedChildren, namedOf, List.find?_filter]
  congr 1
  funext m
  by_cases hk : m.kind = k
  · have hm : m.isNamed = true := by
      rw [isNamed, hk]
      cases k with
      | token text => exact absurd rfl (hn text)
      | _ => rfl
    simp [hm, hk, hc]
  · simp [hk]

/-! Statements that make values. -/

theorem anyValueStatement_cons (n : Node) (ns : List Node) : anyValueStatement (n :: ns) =
    ((n.isNamed && n.kind ≠ .comment && n.isValueStatement) || anyValueStatement ns) := by
  cases n
  rfl

theorem anyValueStatement_eq_any (ns : List Node) : anyValueStatement ns =
    ns.any fun n => n.isNamed && n.kind ≠ .comment && n.isValueStatement := by
  induction ns with
  | nil => rfl
  | cons n ns ih => rw [anyValueStatement_cons, ih, List.any_cons]

theorem declaresValues_eq_any (n : Node) :
    n.declaresValues = n.namedChildren.any isValueStatement := by
  rw [declaresValues, anyValueStatement_eq_any, namedChildren, namedOf, List.any_filter]

theorem bodyDeclaresValues_eq_any (ns : List Node) : bodyDeclaresValues ns =
    (ns.find? (·.info.field = some .body)).any declaresValues := by
  induction ns with
  | nil => rfl
  | cons n ns ih =>
    obtain ⟨i, cs⟩ := n
    rw [bodyDeclaresValues, ih, List.find?_cons]
    by_cases h : i.field = some .body <;> simp [info, h, declaresValues, children]

theorem innerNamespaceIsValue_eq_getD (ns : List Node) : innerNamespaceIsValue ns =
    ((ns.find? (·.kind = .internalModule)).map isValueStatement).getD true := by
  induction ns with
  | nil => rfl
  | cons n ns ih =>
    obtain ⟨i, cs⟩ := n
    rw [innerNamespaceIsValue, ih, List.find?_cons]
    by_cases h : i.kind = .internalModule <;> simp [kind, info, h]

theorem exportsValue_eq_getD (ns : List Node) (typesOnly : Bool) : exportsValue ns typesOnly =
    ((ns.find? (·.info.field = some .declaration)).map isValueStatement).getD (!typesOnly) := by
  induction ns with
  | nil => rfl
  | cons n ns ih =>
    obtain ⟨i, cs⟩ := n
    rw [exportsValue, ih, List.find?_cons]
    by_cases h : i.field = some .declaration <;> simp [info, h]

theorem isValueStatement_eq (n : Node) : n.isValueStatement =
    match n.kind with
    | .interfaceDeclaration | .typeAliasDeclaration | .ambientDeclaration => false
    | .enumDeclaration => !n.hasToken "const"
    | .internalModule | .module => (n.child? .body).any declaresValues
    | .expressionStatement => ((n.firstNamed? .internalModule).map isValueStatement).getD true
    | .exportStatement =>
      ((n.child? .declaration).map isValueStatement).getD (!n.hasToken "type")
    | _ => true := by
  rw [firstNamed?_eq_find?_children (by simp) (by decide)]
  obtain ⟨i, cs⟩ := n
  rw [isValueStatement, bodyDeclaresValues_eq_any, innerNamespaceIsValue_eq_getD,
    exportsValue_eq_getD]
  rfl

/-! Names that patterns bind. -/

theorem elementNames_cons (source : List Char) (e : Bool) (n : Node) (ns : List Node) :
    elementNames source e (n :: ns) =
      (if n.isNamed && n.kind ≠ .comment then patternNames source e n else []) ++
        elementNames source e ns := by
  cases n
  rfl

theorem elementNames_eq_flatMap (source : List Char) (e : Bool) (ns : List Node) :
    elementNames source e ns = (namedOf ns).flatMap (patternNames source e) := by
  induction ns with
  | nil => rfl
  | cons n ns ih =>
    rw [elementNames_cons, ih, namedOf, namedOf, List.filter_cons]
    split <;> simp_all

theorem roleNames_eq_getD (source : List Char) (e : Bool) (f : Field) (ns : List Node) :
    roleNames source e f ns =
      ((ns.find? (·.info.field = some f)).map (patternNames source e)).getD [] := by
  induction ns with
  | nil => rfl
  | cons n ns ih =>
    obtain ⟨i, cs⟩ := n
    rw [roleNames, ih, List.find?_cons]
    by_cases h : i.field = some f <;> simp [info, h]

theorem patternNames_eq (source : List Char) (e : Bool) (n : Node) : patternNames source e n =
    match n.kind with
    | .identifier | .shorthandPropertyIdentifierPattern =>
      [n.declaration source .variable e]
    | .pairPattern => ((n.child? .value).map (patternNames source e)).getD []
    | .assignmentPattern | .objectAssignmentPattern =>
      ((n.child? .left).map (patternNames source e)).getD []
    | .objectPattern | .arrayPattern | .restPattern =>
      n.namedChildren.flatMap (patternNames source e)
    | _ => [] := by
  obtain ⟨i, cs⟩ := n
  rw [patternNames, roleNames_eq_getD, roleNames_eq_getD, elementNames_eq_flatMap]
  rfl

end TypeScriptRepl.Syntax.Node
