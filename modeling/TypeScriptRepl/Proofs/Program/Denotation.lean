import Mathlib.Data.List.Forall2
import TypeScriptRepl.Export.Extraction
import TypeScriptRepl.Proofs.Program.Items

/-! Programs of texts whose syntax trees any parser finds are, places aside, what their outlines denote. -/
namespace TypeScriptRepl

open Grammar Syntax

def Syntax.tree? (text : List Char) : Option Node := (Syntax.parse text).map Subtree.toTree

variable (grammar : List Char → Option Node)

/-- The program of a text whose syntax tree another parser finds. -/
def Program.parseBy (source : String) : Except ParseError Program :=
  match grammar source.toList with
  | none => .error .noTree
  | some root => ofTree source.toList root

def Extraction.ofSourceBy (source : String) : Except ParseError Extraction :=
  (Program.parseBy grammar source).map ofProgram

theorem Program.parseBy_tree? (source : String) : parseBy Syntax.tree? source = parse source := by
  unfold parseBy parse Syntax.tree?
  dsimp only
  generalize Syntax.parse source.toList = t
  cases t with
  | none => rfl
  | some t => rfl

theorem Extraction.ofSourceBy_tree? (source : String) :
    ofSourceBy Syntax.tree? source = ofSource source := by
  rw [ofSourceBy, ofSource, Program.parseBy_tree?]

namespace Syntax

namespace Outline

def IsName (o : Outline) (name : String) : Prop := o.kind = .identifier ∧ o.text = name.toList

/-- A specifier without modifiers: `name`, or `name as exportedAs`. -/
structure IsSpecifier (o : Outline) (x : ExportSpecifier) : Prop where
  kind : o.kind = .exportSpecifier
  type : o.hasToken "type" = false
  name : ∃ i, o.child? .name = some i ∧ i.IsName x.name
  exported : (o.child? .alias = none ∧ x.exportedAs = x.name) ∨
    ∃ i, o.child? .alias = some i ∧ i.IsName x.exportedAs

/-- The forms of the statements of a harness, each with its items. -/
inductive Form : Outline → List Item → Prop
  | clause {o c p : Outline} {x : ExportSpecifier} (kind : o.kind = .exportStatement)
      (declaration : o.child? .declaration = none) (value : o.child? .value = none)
      (source : o.child? .source = none) (type : o.hasToken "type" = false)
      (children : o.namedChildren = [c]) (clause : c.kind = .exportClause)
      (specifiers : c.namedChildren = [p]) (specifier : p.IsSpecifier x) :
      Form o [.exports ⟨[x], none, default⟩]
  | namespaceImport {o c w b i : Outline} {name : String} (kind : o.kind = .importStatement)
      (type : o.hasToken "type" = false) (typeof : o.hasToken "typeof" = false)
      (children : o.namedChildren = [c, w]) (clause : c.kind = .importClause)
      (source : w.kind = .string) (clauses : c.namedChildren = [b])
      (all : b.kind = .namespaceImport) (binding : b.namedChildren = [i]) (spells : i.IsName name) :
      Form o [.imports ⟨[⟨name, default⟩], default⟩]
  | function {o i : Outline} {name : String} (kind : o.kind = .functionDeclaration)
      (binding : o.child? .name = some i) (spells : i.IsName name) :
      Form o [.declares ⟨name, .function, false, default⟩]
  | constant {o d i : Outline} {name : String} (kind : o.kind = .lexicalDeclaration)
      (children : o.namedChildren = [d]) (declarator : d.kind = .variableDeclarator)
      (binding : d.child? .name = some i) (spells : i.IsName name) :
      Form o [.declares ⟨name, .variable, false, default⟩]
  | expression {o : Outline} (kind : o.kind = .expressionStatement)
      (namespaces : o.firstNamed? .internalModule = none) : Form o []

end Outline

/-- The parser finds a tree without errors, and its statements have these outlines. -/
def Accepts (text : List Char) (os : List Outline) : Prop :=
  ∃ root, grammar text = some root ∧ root.hasError = false ∧
    root.namedChildren.map (Node.outline text) = os

/-- In any text, statements of these outlines have these items, places aside. -/
def Denotes (os : List Outline) (is : List Item) : Prop :=
  ∀ (text : List Char) (ns : List Node), ns.map (Node.outline text) = os →
    (ns.flatMap (·.items text)).map Item.unplaced = is

namespace Denotes

theorem nil : Denotes [] [] := by
  intro text ns h
  rw [List.map_eq_nil_iff] at h
  rw [h]
  rfl

theorem append {os ps : List Outline} {is js : List Item} (h : Denotes os is)
    (h' : Denotes ps js) : Denotes (os ++ ps) (is ++ js) := by
  intro text ns hns
  obtain ⟨as, bs, rfl, ha, hb⟩ := List.map_eq_append_iff.1 hns
  rw [List.flatMap_append, List.map_append, h text as ha, h' text bs hb]

theorem ofNodes (text : List Char) (ns : List Node) :
    Denotes (ns.map (Node.outline text)) ((ns.flatMap (·.items text)).map Item.unplaced) := by
  intro text' ns' h
  simp only [List.map_flatMap]
  exact Node.flatMap_eq_of_outlines (fun _ _ h => Node.items_congr h) h

end Denotes

namespace Node

variable {s : List Char} {n : Node}

theorem child?_eq_none (f : Field) (h : (n.outline s).child? f = none) : n.child? f = none := by
  rwa [child?_outline, Option.map_eq_none_iff] at h

theorem child?_eq_some (f : Field) {o : Outline} (h : (n.outline s).child? f = some o) :
    ∃ c, n.child? f = some c ∧ c.outline s = o := by
  rwa [child?_outline, Option.map_eq_some_iff] at h

theorem namedChildren_eq_singleton {o : Outline} (h : (n.outline s).namedChildren = [o]) :
    ∃ c, n.namedChildren = [c] ∧ c.outline s = o := by
  rwa [namedChildren_outline, List.map_eq_singleton_iff] at h

theorem nameText_eq {name : String} (h : (n.outline s).IsName name) : n.nameText s = name := by
  have ht := h.2
  rw [text_outline] at ht
  rw [nameText, ht, String.ofList_toList]

theorem exportName_eq {name : String} (h : (n.outline s).IsName name) : n.exportName s = name := by
  have hk := h.1
  rw [kind_outline] at hk
  rw [exportName, hk, if_neg (by decide), nameText_eq h]

theorem exportSpecifier_eq {x : ExportSpecifier} (h : (n.outline s).IsSpecifier x) :
    n.exportSpecifier s = some x := by
  have hk := h.kind
  have ht := h.type
  rw [kind_outline] at hk
  rw [hasToken_outline] at ht
  obtain ⟨_, ho, hi⟩ := h.name
  obtain ⟨name, hn, rfl⟩ := child?_eq_some .name ho
  rw [exportSpecifier, hk, ht, hn, if_neg (by decide), Option.map_some]
  dsimp only
  rcases h.exported with ⟨ho', hx⟩ | ⟨_, ho', hj⟩
  · rw [child?_eq_none .alias ho', Option.map_none, Option.getD_none, exportName_eq hi]
    exact congrArg (fun e => some (ExportSpecifier.mk x.name e)) hx.symm
  · obtain ⟨other, ha, rfl⟩ := child?_eq_some .alias ho'
    rw [ha, Option.map_some, Option.getD_some, exportName_eq hi, exportName_eq hj]

end Node

theorem Outline.Form.denotes {o : Outline} {is : List Item} (h : o.Form is) : Denotes [o] is := by
  intro text ns hns
  obtain ⟨n, rfl, rfl⟩ := List.map_eq_singleton_iff.1 hns
  rw [List.flatMap_singleton]
  cases h with
  | @clause _ _ x kind declaration value source type children clause specifiers specifier =>
    obtain ⟨c, hc, rfl⟩ := Node.namedChildren_eq_singleton children
    obtain ⟨p, hp, rfl⟩ := Node.namedChildren_eq_singleton specifiers
    rw [Node.kind_outline] at kind clause
    rw [Node.hasToken_outline] at type
    have hs : c.exportSpecifiers text = [x] := by
      simp [Node.exportSpecifiers, clause, hp, Node.exportSpecifier_eq specifier]
    simp [Node.items, kind, Node.exportItems, Node.child?_eq_none _ declaration,
      Node.child?_eq_none _ value, Node.child?_eq_none _ source, type, hc, hs, Item.unplaced]
  | @namespaceImport _ _ _ _ name kind type typeof children clause source clauses all binding
      spells =>
    rw [Node.namedChildren_outline, List.map_eq_cons_iff] at children
    obtain ⟨c, ws, hn, rfl, hw⟩ := children
    obtain ⟨w, rfl, rfl⟩ := List.map_eq_singleton_iff.1 hw
    obtain ⟨b, hb, rfl⟩ := Node.namedChildren_eq_singleton clauses
    obtain ⟨i, hi, rfl⟩ := Node.namedChildren_eq_singleton binding
    have hk := spells.1
    rw [Node.kind_outline] at kind clause source all hk
    rw [Node.hasToken_outline] at type typeof
    have hf : b.firstNamed? .identifier = some i := by simp [Node.firstNamed?, hi, hk]
    have hc : c.importBindings text = [i.binding text] := by
      simp [Node.importBindings, clause, hb, Node.clauseBindings, all, hf]
    have hw : w.importBindings text = [] := by simp [Node.importBindings, source]
    simp [Node.items, kind, Node.isTypeOnly, type, typeof, hn, hc, hw, Node.binding,
      Node.nameText_eq spells, Item.unplaced, ImportBinding.unplaced]
  | function kind binding spells =>
    obtain ⟨i, hi, rfl⟩ := Node.child?_eq_some .name binding
    rw [Node.kind_outline] at kind
    simp [Node.items, kind, Node.declarations, Node.namedDeclaration, hi, Node.declaration,
      Node.nameText_eq spells, Item.unplaced, Declaration.unplaced]
  | constant kind children declarator binding spells =>
    obtain ⟨d, hd, rfl⟩ := Node.namedChildren_eq_singleton children
    obtain ⟨i, hi, rfl⟩ := Node.child?_eq_some .name binding
    have hk := spells.1
    rw [Node.kind_outline] at kind declarator hk
    have hp : i.patternNames text false = [i.declaration text .variable false] := by
      obtain ⟨info, cs⟩ := i
      have hk : info.kind = .identifier := hk
      simp only [Node.patternNames, hk]
    simp [Node.items, kind, Node.declarations, hd, declarator, hi, hp, Node.declaration,
      Node.nameText_eq spells, Item.unplaced, Declaration.unplaced]
  | expression kind namespaces =>
    rw [Node.kind_outline] at kind
    rw [Node.firstNamed?_outline, Option.map_eq_none_iff] at namespaces
    simp [Node.items, kind, Node.declarations, namespaces]

theorem Denotes.ofForms {os : List Outline} {iss : List (List Item)}
    (h : List.Forall₂ Outline.Form os iss) : Denotes os iss.flatten := by
  induction h with
  | nil => exact .nil
  | cons h _ ih => exact h.denotes.append ih

def Restates (qs os : List Outline) : Prop := ∀ is, Denotes os is → Denotes qs is

def Reads (text : List Char) (is : List Item) : Prop :=
  ∃ os, Accepts grammar text os ∧ Denotes os is

variable {grammar}

theorem Reads.exists_program {source : String} {is : List Item}
    (h : Reads grammar source.toList is) :
    ∃ p, Program.parseBy grammar source = .ok p ∧ p.items.map Item.unplaced = is := by
  obtain ⟨os, ⟨root, ht, he, ho⟩, hd⟩ := h
  refine ⟨⟨root.namedChildren.flatMap (·.items source.toList), root.span source.toList⟩, ?_,
    hd _ _ ho⟩
  simp [Program.parseBy, ht, Program.ofTree, he]

theorem reads_of_program {source : String} {p : Program}
    (h : Program.parseBy grammar source = .ok p) :
    Reads grammar source.toList (p.items.map Item.unplaced) := by
  unfold Program.parseBy at h
  split at h
  · cases h
  case h_2 root ht =>
    cases he : root.hasError with
    | true => simp [Program.ofTree, he] at h
    | false =>
      simp only [Program.ofTree, he, Bool.false_eq_true, if_false, Except.ok.injEq] at h
      subst h
      exact ⟨_, ⟨root, ht, he, rfl⟩, Denotes.ofNodes _ _⟩

end Syntax
end TypeScriptRepl
