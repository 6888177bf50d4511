import TypeScriptRepl.Proofs.Program.Correspondence
import TypeScriptRepl.Proofs.Program.Outline

/-! The items of a statement, places aside, are a matter of its outline. -/
namespace TypeScriptRepl

def Declaration.unplaced (d : Declaration) : Declaration := { d with span := default }

def ImportBinding.unplaced (b : ImportBinding) : ImportBinding := { b with span := default }

def Item.unplaced : Item → Item
  | .imports i => .imports ⟨i.bindings.map .unplaced, default⟩
  | .declares d => .declares d.unplaced
  | .exports l => .exports { l with span := default }

theorem Item.mapSpans_default : Item.mapSpans (fun _ => default) = Item.unplaced := by
  funext i
  cases i <;> rfl

namespace Syntax.Node

open Grammar

variable {s t : List Char} {n m : Node} {ns ms : List Node}

theorem outlines_eq_iff : ns.map (outline s) = ms.map (outline t) ↔
    List.Forall₂ (fun n m => n.outline s = m.outline t) ns ms := by
  rw [← List.forall₂_eq_eq_eq, List.forall₂_map_left_iff, List.forall₂_map_right_iff]

/-- Functions that agree on nodes of one outline agree on lists of one outline each. -/
theorem flatMap_eq_of_outlines {α : Type} {f g : Node → List α}
    (hfg : ∀ n m : Node, n.outline s = m.outline t → f n = g m)
    (h : ns.map (outline s) = ms.map (outline t)) : ns.flatMap f = ms.flatMap g :=
  flatMap_eq_of_forall₂ (outlines_eq_iff.1 h) fun n _ m hnm => hfg n m hnm

theorem kind_congr (h : n.outline s = m.outline t) : n.kind = m.kind := by
  simpa using congrArg Outline.kind h

theorem text_congr (h : n.outline s = m.outline t) : n.text s = m.text t := by
  simpa using congrArg Outline.text h

theorem children_congr (h : n.outline s = m.outline t) :
    List.Forall₂ (fun n m => n.outline s = m.outline t) n.children m.children := by
  rw [← outlines_eq_iff, ← children_outline, ← children_outline, h]

theorem namedChildren_congr (h : n.outline s = m.outline t) :
    n.namedChildren.map (outline s) = m.namedChildren.map (outline t) := by
  rw [← namedChildren_outline, ← namedChildren_outline, h]

theorem child?_congr (h : n.outline s = m.outline t) (f : Field) :
    Option.Rel (fun n m => n.outline s = m.outline t) (n.child? f) (m.child? f) :=
  find?_rel_of_forall₂ (children_congr h) fun c d hcd => by
    rw [← field_outline s, hcd, field_outline]

/-- Nodes of one outline correspond in all but their spans. -/
theorem corresponds_of_outlines :
    Corresponds s t (fun _ => default) fun _ n m => n.outline s = m.outline t where
  kind := kind_congr
  field h := by simpa using congrArg Outline.field h
  span _ := rfl
  text h _ := text_congr h
  children h _ := children_congr h
  seen h _ _ := child?_congr h _
  body h _ := rel_mono (child?_congr h .body) fun _ _ _ hbc => Or.inr (children_congr hbc)

theorem declarations_congr (h : n.outline s = m.outline t) (e : Bool) :
    (n.declarations s e).map Declaration.unplaced =
      (m.declarations t e).map Declaration.unplaced :=
  corresponds_of_outlines.declarations_eq e (o := none) h

theorem items_congr (h : n.outline s = m.outline t) :
    (n.items s).map Item.unplaced = (m.items t).map Item.unplaced := by
  rw [← Item.mapSpans_default]
  exact corresponds_of_outlines.items_eq (o := none) h

end Syntax.Node
end TypeScriptRepl
