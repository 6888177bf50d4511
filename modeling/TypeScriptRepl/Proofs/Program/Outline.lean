import TypeScriptRepl.Program.Scan

/-! Syntax trees with the text of each node in place of its range. -/
namespace TypeScriptRepl.Syntax

open Grammar

/-- What is seen of a node wherever it stands: its kind, its role, its text and its children. -/
inductive Outline where
  | mk (kind : NodeKind) (field : Option Field) (text : List Char) (children : List Outline)

namespace Outline

def kind : Outline → NodeKind
  | mk k _ _ _ => k

def field : Outline → Option Field
  | mk _ f _ _ => f

def text : Outline → List Char
  | mk _ _ t _ => t

def children : Outline → List Outline
  | mk _ _ _ cs => cs

def isNamed (o : Outline) : Bool :=
  match o.kind with
  | .token _ => false
  | _ => true

def namedChildren (o : Outline) : List Outline :=
  o.children.filter fun c => c.isNamed && c.kind ≠ .comment

def hasToken (o : Outline) (text : String) : Bool := o.children.any (·.kind = .token text)

def child? (o : Outline) (f : Field) : Option Outline := o.children.find? (·.field = some f)

def firstNamed? (o : Outline) (k : NodeKind) : Option Outline := o.namedChildren.find? (·.kind = k)

def inRole (f : Option Field) : Outline → Outline
  | mk k _ t cs => mk k f t cs

theorem inRole_inRole (o : Outline) (f g : Option Field) : (o.inRole f).inRole g = o.inRole g := by
  cases o
  rfl

mutual
def decEq : (o p : Outline) → Decidable (o = p)
  | mk k f t cs, mk l g u ds =>
    match decEqAll cs ds with
    | isTrue hc =>
      if h : k = l ∧ f = g ∧ t = u then isTrue (by rw [h.1, h.2.1, h.2.2, hc])
      else isFalse fun he => h (by cases he; exact ⟨rfl, rfl, rfl⟩)
    | isFalse hc => isFalse fun he => hc (by cases he; rfl)

def decEqAll : (os ps : List Outline) → Decidable (os = ps)
  | [], [] => isTrue rfl
  | [], _ :: _ => isFalse nofun
  | _ :: _, [] => isFalse nofun
  | o :: os, p :: ps =>
    match decEq o p, decEqAll os ps with
    | isTrue h, isTrue hs => isTrue (by rw [h, hs])
    | isFalse h, _ => isFalse fun he => h (List.cons.inj he).1
    | _, isFalse hs => isFalse fun he => hs (List.cons.inj he).2
end

instance : DecidableEq Outline := decEq

end Outline

namespace Node

mutual
def outline (source : List Char) : Node → Outline
  | .mk i cs => .mk i.kind i.field ((Node.mk i cs).text source) (outlines source cs)

def outlines (source : List Char) : List Node → List Outline
  | [] => []
  | n :: ns => n.outline source :: outlines source ns
end

variable {s t : List Char} {n m : Node}

theorem outlines_eq_map (s : List Char) (ns : List Node) : outlines s ns = ns.map (outline s) := by
  induction ns with
  | nil => rfl
  | cons n ns ih => rw [outlines, ih, List.map_cons]

@[simp] theorem kind_outline (s : List Char) (n : Node) : (n.outline s).kind = n.kind := by
  cases n
  rfl

@[simp] theorem field_outline (s : List Char) (n : Node) : (n.outline s).field = n.info.field := by
  cases n
  rfl

@[simp] theorem text_outline (s : List Char) (n : Node) : (n.outline s).text = n.text s := by
  cases n
  rfl

@[simp] theorem children_outline (s : List Char) (n : Node) :
    (n.outline s).children = n.children.map (outline s) := by
  cases n
  exact outlines_eq_map s _

@[simp] theorem isNamed_outline (s : List Char) (n : Node) : (n.outline s).isNamed = n.isNamed := by
  cases n
  rfl

theorem namedChildren_outline (s : List Char) (n : Node) :
    (n.outline s).namedChildren = n.namedChildren.map (outline s) := by
  simp [Outline.namedChildren, namedChildren, namedOf, List.filter_map, Function.comp_def]

theorem hasToken_outline (s : List Char) (n : Node) (text : String) :
    (n.outline s).hasToken text = n.hasToken text := by
  simp [Outline.hasToken, hasToken, Function.comp_def]

theorem child?_outline (s : List Char) (n : Node) (f : Field) :
    (n.outline s).child? f = (n.child? f).map (outline s) := by
  simp only [Outline.child?, child?, children_outline, List.find?_map, Function.comp_def,
    field_outline]

theorem firstNamed?_outline (s : List Char) (n : Node) (k : NodeKind) :
    (n.outline s).firstNamed? k = (n.firstNamed? k).map (outline s) := by
  simp only [Outline.firstNamed?, firstNamed?, namedChildren_outline, List.find?_map,
    Function.comp_def, kind_outline]

end Node
end TypeScriptRepl.Syntax
