import Mathlib.Data.List.Basic
import TypeScriptRepl.Proofs.Program.Correspondence
import TypeScriptRepl.Proofs.Program.Denotation

/-! Comments change nothing of what the scan finds in a tree, but for HTML comments in two places. -/
namespace TypeScriptRepl

open Grammar Syntax

/-- Text from `<!--` to the end of the line, as the grammar calls it. -/
def Syntax.NodeKind.htmlComment : NodeKind := .other "html_comment"

namespace Syntax.Node

/-- Whether a node is a comment to be left out, with those of HTML or without. -/
def isLeftOut (html : Bool) (i : Info) : Bool :=
  i.field = none && (i.kind = .comment || html && i.kind = .htmlComment)

section

-- where the HTML comments right below a node are left out, given the kind above the node
variable (html : Option NodeKind → Info → List Node → Bool)

mutual
/-- The tree without its comments. Only the names that the scan takes over keep their places, for
all other texts change with the comments in them. -/
def uncommented (outer : Option NodeKind) : Node → Node
  | .mk i cs =>
    .mk { i with range := if isRead outer i then i.range else default }
      (uncommentedAll (some i.kind) (html outer i cs) cs)

def uncommentedAll (outer : Option NodeKind) (out : Bool) : List Node → List Node
  | [] => []
  | .mk i cs :: ns =>
    if isLeftOut out i then uncommentedAll outer out ns
    else uncommented outer (.mk i cs) :: uncommentedAll outer out ns
end

theorem uncommentedAll_eq_map (outer : Option NodeKind) (out : Bool) (ns : List Node) :
    uncommentedAll html outer out ns =
      (ns.filter fun n => !isLeftOut out n.info).map (uncommented html outer) := by
  induction ns with
  | nil => rfl
  | cons n ns ih =>
    obtain ⟨i, cs⟩ := n
    rw [uncommentedAll, ih, List.filter_cons]
    cases h : isLeftOut out i <;> simp [info, h]

variable {html} {outer : Option NodeKind} {out : Bool} {n : Node} {ns : List Node}

@[simp] theorem kind_uncommented : (n.uncommented html outer).kind = n.kind := by
  cases n
  rfl

@[simp] theorem field_uncommented : (n.uncommented html outer).info.field = n.info.field := by
  cases n
  rfl

@[simp] theorem isNamed_uncommented : (n.uncommented html outer).isNamed = n.isNamed := by
  cases n
  rfl

theorem children_uncommented : (n.uncommented html outer).children =
    uncommentedAll html (some n.kind) (html outer n.info n.children) n.children := by
  cases n
  rfl

theorem kind_of_isLeftOut (h : isLeftOut out n.info = true) :
    n.kind = .comment ∨ n.kind = .htmlComment := by
  simp only [isLeftOut, Bool.and_eq_true, Bool.or_eq_true, decide_eq_true_eq] at h
  exact h.2.imp id And.right

theorem find?_field_uncommentedAll (f : Field) :
    (uncommentedAll html outer out ns).find? (·.info.field = some f) =
      (ns.find? (·.info.field = some f)).map (uncommented html outer) := by
  rw [uncommentedAll_eq_map, List.find?_map, List.find?_filter]
  congr 2
  funext n
  by_cases h : n.info.field = some f <;> simp [h, isLeftOut]

theorem child?_uncommented (f : Field) : (n.uncommented html outer).child? f =
    (n.child? f).map (uncommented html (some n.kind)) := by
  rw [child?, children_uncommented, find?_field_uncommentedAll, child?]

theorem hasToken_uncommented (text : String) :
    (n.uncommented html outer).hasToken text = n.hasToken text := by
  rw [hasToken, hasToken, children_uncommented, uncommentedAll_eq_map, List.any_map,
    List.any_filter]
  congr 1
  funext m
  by_cases h : m.kind = .token text
  · have hm : isLeftOut (html outer n.info n.children) m.info = false := by
      rw [kind] at h
      simp [isLeftOut, h, NodeKind.htmlComment]
    simp [h, hm]
  · simp [h]

theorem isTypeOnly_uncommented : (n.uncommented html outer).isTypeOnly = n.isTypeOnly := by
  rw [isTypeOnly, isTypeOnly, hasToken_uncommented, hasToken_uncommented]

theorem namedOf_uncommentedAll : namedOf (uncommentedAll html outer out ns) =
    ((namedOf ns).filter fun n => !isLeftOut out n.info).map (uncommented html outer) := by
  rw [uncommentedAll_eq_map, namedOf, namedOf, List.filter_map, List.filter_filter,
    List.filter_filter]
  congr 2
  funext n
  simp [Bool.and_comm]

theorem namedChildren_uncommented : (n.uncommented html outer).namedChildren =
    (n.namedChildren.filter fun m => !isLeftOut (html outer n.info n.children) m.info).map
      (uncommented html (some n.kind)) := by
  rw [namedChildren, children_uncommented, namedOf_uncommentedAll, namedChildren]

/-- The only comments among named children are those of HTML. -/
theorem kind_of_mem_namedChildren {m : Node} (hm : m ∈ n.namedChildren)
    (h : isLeftOut out m.info = true) : m.kind = .htmlComment := by
  have hc := (List.mem_filter.1 hm).2
  rcases kind_of_isLeftOut h with hk | hk
  · simp [hk] at hc
  · exact hk

theorem filter_namedChildren_uncommented {k : NodeKind} (hk : k ≠ .htmlComment) :
    (n.uncommented html outer).namedChildren.filter (·.kind = k) =
      (n.namedChildren.filter (·.kind = k)).map (uncommented html (some n.kind)) := by
  rw [namedChildren_uncommented, List.filter_map, List.filter_filter]
  congr 1
  refine List.filter_congr fun m hm => ?_
  cases ho : isLeftOut (html outer n.info n.children) m.info with
  | false => simp
  | true =>
    have hm := kind_of_mem_namedChildren hm ho
    simp [hm, hk.symm]

theorem firstNamed?_uncommented {k : NodeKind} (hk : k ≠ .htmlComment) :
    (n.uncommented html outer).firstNamed? k =
      (n.firstNamed? k).map (uncommented html (some n.kind)) := by
  rw [firstNamed?, firstNamed?, ← List.head?_filter, ← List.head?_filter,
    filter_namedChildren_uncommented hk, List.head?_map]

/-- What is found in named children is found without the comments, if nothing is found in those. -/
theorem flatMap_namedChildren_uncommented {α : Type} {f g : Node → List α}
    (hfg : ∀ m ∈ n.namedChildren, f (m.uncommented html (some n.kind)) = g m)
    (hc : ∀ m : Node, m.kind = .htmlComment → g m = []) :
    (n.uncommented html outer).namedChildren.flatMap f = n.namedChildren.flatMap g := by
  rw [namedChildren_uncommented, List.flatMap_map]
  have hc' : ∀ m ∈ n.namedChildren,
      isLeftOut (html outer n.info n.children) m.info = true → g m = [] :=
    fun m hm ho => hc m (kind_of_mem_namedChildren hm ho)
  generalize n.namedChildren = ms at hfg hc'
  induction ms with
  | nil => rfl
  | cons m ms ih =>
    rw [List.forall_mem_cons] at hfg hc'
    have ih := ih hfg.2 hc'.2
    rw [List.filter_cons, List.flatMap_cons]
    cases ho : isLeftOut (html outer n.info n.children) m.info with
    | false => simp [hfg.1, ih]
    | true => simp [ih, hc'.1 ho]

theorem filterMap_namedChildren_uncommented {α : Type} {f g : Node → Option α}
    (hfg : ∀ m ∈ n.namedChildren, f (m.uncommented html (some n.kind)) = g m)
    (hc : ∀ m : Node, m.kind = .htmlComment → g m = none) :
    (n.uncommented html outer).namedChildren.filterMap f = n.namedChildren.filterMap g := by
  rw [List.filterMap_eq_flatMap_toList, List.filterMap_eq_flatMap_toList]
  exact flatMap_namedChildren_uncommented (fun m hm => congrArg Option.toList (hfg m hm))
    fun m hm => congrArg Option.toList (hc m hm)

theorem range_uncommented (h : isRead outer n.info = true) :
    (n.uncommented html outer).range = n.range := by
  cases n
  exact if_pos h

theorem declaration_uncommented {source : List Char} (h : isRead outer n.info = true)
    (k : DeclarationKind) (e : Bool) :
    (n.uncommented html outer).declaration source k e = n.declaration source k e := by
  simp only [declaration, nameText, text, span, range_uncommented h]

theorem binding_uncommented {source : List Char} (h : n.kind = .identifier) :
    (n.uncommented html outer).binding source = n.binding source := by
  have hr : isRead outer n.info = true := by simp [isRead, show n.info.kind = _ from h]
  simp only [binding, nameText, text, span, range_uncommented hr]

theorem exportName_uncommented {source : List Char} (h : isRead outer n.info = true) :
    (n.uncommented html outer).exportName source = n.exportName source := by
  simp only [exportName, nameText, text, kind_uncommented, range_uncommented h]

end

/-- Where HTML comments are harmless: not before the name in a `* as` clause, and in the body of a
namespace only if the rest of the body declares values. -/
def htmlIsHarmless (outer : Option NodeKind) (i : Info) (cs : List Node) : Bool :=
  i.kind ≠ .namespaceExport &&
    (outer ≠ some .internalModule && outer ≠ some .module || i.field ≠ some .body ||
      anyValueStatement (cs.filter fun c => !isLeftOut true c.info))

/-- Without its comments a body declares the same values, if those of HTML are harmless in it. -/
theorem anyValueStatement_filter {out : Bool} {ns : List Node}
    (h : out = true → anyValueStatement (ns.filter fun n => !isLeftOut true n.info) = true) :
    anyValueStatement (ns.filter fun n => !isLeftOut out n.info) = anyValueStatement ns := by
  simp only [anyValueStatement_eq_any, List.any_filter] at h ⊢
  rw [Bool.eq_iff_iff, List.any_eq_true, List.any_eq_true]
  constructor
  · rintro ⟨n, hn, hv⟩
    exact ⟨n, hn, (Bool.and_eq_true_iff.1 hv).2⟩
  · rintro ⟨n, hn, hv⟩
    cases out with
    | true => exact List.any_eq_true.1 (h rfl)
    | false =>
      refine ⟨n, hn, ?_⟩
      have hk : n.info.kind ≠ .comment := by
        intro hk
        rw [kind] at hv
        simp [hk] at hv
      simpa [isLeftOut, hk] using hv

/-- In the body of a namespace HTML comments are harmless next to statements that make values. -/
theorem anyValueStatement_of_htmlIsHarmless {outer : Option NodeKind} {i : Info} {cs : List Node}
    (ho : outer = some .internalModule ∨ outer = some .module) (hf : i.field = some .body)
    (h : htmlIsHarmless outer i cs = true) :
    anyValueStatement (cs.filter fun c => !isLeftOut true c.info) = true := by
  have h := (Bool.and_eq_true_iff.1 h).2
  rcases ho with rfl | rfl <;> simpa [hf] using h

/-! Whether a statement makes a value. Next to it stands what this needs of the body of a namespace,
whose statements are two steps below. -/

theorem values_uncommented (n : Node) :
    (∀ outer, (n.uncommented htmlIsHarmless outer).isValueStatement = n.isValueStatement) ∧
      ∀ outer, outer = some .internalModule ∨ outer = some .module → n.info.field = some .body →
        (n.uncommented htmlIsHarmless outer).declaresValues = n.declaresValues := by
  induction n using Node.induction with
  | step n ih =>
    refine ⟨fun outer => ?_, fun outer ho hf => ?_⟩
    · have values {o : Option Node} (ho : ∀ c, o = some c → c ∈ n.children) :
          (o.map (uncommented htmlIsHarmless (some n.kind))).map isValueStatement =
            o.map isValueStatement := by
        rw [Option.map_map]
        exact Option.map_congr fun c hc => (ih c (ho c hc)).1 _
      rw [isValueStatement_eq, isValueStatement_eq, kind_uncommented, hasToken_uncommented,
        hasToken_uncommented, child?_uncommented, child?_uncommented,
        firstNamed?_uncommented (by decide)]
      split
      case h_5 hk | h_6 hk =>
        cases hb : n.child? .body with
        | none => rfl
        | some b => exact (ih b (mem_of_child? hb)).2 _ (by simp [hk]) (field_of_child? hb)
      case h_7 => rw [values fun _ => mem_of_firstNamed?]
      case h_8 => rw [values fun _ => mem_of_child?]
      all_goals rfl
    · have hs (ns : List Node) (hns : ∀ c ∈ ns, c ∈ n.children) :
          anyValueStatement (ns.map (uncommented htmlIsHarmless (some n.kind))) =
            anyValueStatement ns := by
        rw [anyValueStatement_eq_any, anyValueStatement_eq_any, List.any_map, Bool.eq_iff_iff,
          List.any_eq_true, List.any_eq_true]
        refine exists_congr fun c => and_congr_right fun hc => ?_
        rw [Function.comp_apply, isNamed_uncommented, kind_uncommented, (ih c (hns c hc)).1]
      rw [declaresValues, children_uncommented, uncommentedAll_eq_map,
        hs _ fun c hc => (List.mem_filter.1 hc).1, declaresValues]
      exact anyValueStatement_filter (anyValueStatement_of_htmlIsHarmless ho hf)

theorem patternNames_uncommented (source : List Char) (e : Bool) (n : Node) : ∀ outer,
    patternNames source e (n.uncommented htmlIsHarmless outer) = patternNames source e n := by
  induction n using Node.induction with
  | step n ih =>
    intro outer
    have inRole (f : Field) :
        (((n.uncommented htmlIsHarmless outer).child? f).map (patternNames source e)).getD [] =
          ((n.child? f).map (patternNames source e)).getD [] := by
      rw [child?_uncommented, Option.map_map]
      exact congrArg (Option.getD · [])
        (Option.map_congr fun c hc => ih c (mem_of_child? hc) _)
    rw [patternNames_eq, patternNames_eq, kind_uncommented]
    split
    case h_1 hk | h_2 hk =>
      rw [declaration_uncommented (isRead_of_kind (by simp [hk]) _)]
    case h_3 | h_4 | h_5 => exact inRole _
    case h_6 | h_7 | h_8 =>
      refine flatMap_namedChildren_uncommented
        (fun c hc => ih c (mem_of_mem_namedChildren hc) _) fun c hc => ?_
      simp [patternNames_eq, hc, NodeKind.htmlComment]
    case h_9 => rfl

section

variable {source : List Char} {outer : Option NodeKind} {n : Node}

private theorem toList_map_congr {α β : Type} {o : Option α} {f g : α → β}
    (h : ∀ a, o = some a → f a = g a) : o.toList.map f = o.toList.map g :=
  List.map_congr_left fun a ha => h a (Option.mem_toList.1 ha)

/-- The names that the scan takes over are the same. -/
theorem namedDeclaration_uncommented {k : DeclarationKind} {e : Bool}
    (h : ∀ m : Node, n.child? .name = some m → isRead (some n.kind) m.info = true) :
    namedDeclaration source e k (n.uncommented htmlIsHarmless outer) =
      namedDeclaration source e k n := by
  rw [namedDeclaration, child?_uncommented, Option.toList_map, List.map_map, namedDeclaration]
  exact toList_map_congr fun m hm => declaration_uncommented (h m hm) k e

theorem namespaceDeclaration_uncommented {e : Bool}
    (hk : n.kind = .internalModule ∨ n.kind = .module) :
    namespaceDeclaration source e (n.uncommented htmlIsHarmless outer) =
      namespaceDeclaration source e n := by
  have hv : ((n.uncommented htmlIsHarmless outer).child? .body).any declaresValues =
      (n.child? .body).any declaresValues := by
    rw [child?_uncommented]
    cases h : n.child? .body with
    | none => rfl
    | some m =>
      exact (values_uncommented m).2 _ (hk.imp (congrArg some) (congrArg some)) (field_of_child? h)
  rw [namespaceDeclaration, namespaceDeclaration, hv, child?_uncommented, Option.any_map]
  simp only [kind_uncommented]
  split
  case isTrue h =>
    refine namedDeclaration_uncommented fun m hm => ?_
    have hi : m.kind = .identifier := by simpa [hm] using (Bool.and_eq_true_iff.1 h).1
    exact isRead_of_kind (Or.inl hi) _
  case isFalse => rfl

theorem declarations_uncommented {e : Bool} :
    (n.uncommented htmlIsHarmless outer).declarations source e = n.declarations source e := by
  rw [declarations, declarations, kind_uncommented, hasToken_uncommented]
  split
  case h_1 hk | h_2 hk | h_3 hk | h_4 hk | h_5 hk =>
    refine namedDeclaration_uncommented fun m hm => ?_
    simp [isRead, hk, field_of_child? hm]
  case h_6 hk =>
    split
    · rfl
    · refine namedDeclaration_uncommented fun m hm => ?_
      simp [isRead, hk, field_of_child? hm]
  case h_7 hk => exact namespaceDeclaration_uncommented (Or.inl hk)
  case h_8 hk => exact namespaceDeclaration_uncommented (Or.inr hk)
  case h_9 =>
    rw [firstNamed?_uncommented (by decide)]
    cases h : n.firstNamed? .internalModule with
    | none => rfl
    | some m =>
      have hm : m.kind = .internalModule := by simpa using List.find?_some h
      exact namespaceDeclaration_uncommented (Or.inl hm)
  case h_10 | h_11 =>
    rw [filter_namedChildren_uncommented (by decide), List.flatMap_map]
    simp only [child?_uncommented, Option.map_map, Function.comp_def, patternNames_uncommented]
  case h_12 => rfl

theorem firstBinding_uncommented :
    ((n.uncommented htmlIsHarmless outer).firstNamed? .identifier).toList.map (binding source) =
      (n.firstNamed? .identifier).toList.map (binding source) := by
  rw [firstNamed?_uncommented (by decide), Option.toList_map, List.map_map]
  refine toList_map_congr fun m hm => binding_uncommented ?_
  simpa using List.find?_some hm

theorem specifierBinding_uncommented :
    (n.uncommented htmlIsHarmless outer).specifierBinding source = n.specifierBinding source := by
  rw [specifierBinding, specifierBinding, kind_uncommented, isTypeOnly_uncommented,
    child?_uncommented, child?_uncommented]
  split
  · rfl
  have hb (o : Option Node) :
      ((o.map (uncommented htmlIsHarmless (some n.kind))).filter (·.kind = .identifier)).map
        (binding source) = (o.filter (·.kind = .identifier)).map (binding source) := by
    cases o with
    | none => rfl
    | some m =>
      rw [Option.map_some, Option.filter_some, Option.filter_some, kind_uncommented]
      split
      case isTrue hm => simp [binding_uncommented (of_decide_eq_true hm)]
      case isFalse => rfl
  cases n.child? .alias with
  | none => exact hb (n.child? .name)
  | some m => exact hb (some m)

theorem clauseBindings_uncommented :
    (n.uncommented htmlIsHarmless outer).clauseBindings source = n.clauseBindings source := by
  rw [clauseBindings, clauseBindings, kind_uncommented]
  split
  case h_1 hk => rw [binding_uncommented hk]
  case h_2 => exact firstBinding_uncommented
  case h_3 =>
    refine filterMap_namedChildren_uncommented (fun _ _ => specifierBinding_uncommented) ?_
    intro m hm
    simp [specifierBinding, hm, NodeKind.htmlComment]
  case h_4 => rfl

theorem importBindings_uncommented :
    (n.uncommented htmlIsHarmless outer).importBindings source = n.importBindings source := by
  rw [importBindings, importBindings, kind_uncommented]
  split
  case h_1 =>
    refine flatMap_namedChildren_uncommented (fun _ _ => clauseBindings_uncommented) fun m hm => ?_
    simp [clauseBindings, hm, NodeKind.htmlComment]
  case h_2 => exact firstBinding_uncommented
  case h_3 => rfl

theorem exportSpecifier_uncommented :
    (n.uncommented htmlIsHarmless outer).exportSpecifier source = n.exportSpecifier source := by
  rw [exportSpecifier, exportSpecifier, kind_uncommented, hasToken_uncommented]
  split
  · rfl
  case isFalse h =>
    have hk : n.kind = .exportSpecifier := by
      by_contra hk
      simp [hk] at h
    have hn (f : Field) (hf : f = .name ∨ f = .alias) :
        ((n.uncommented htmlIsHarmless outer).child? f).map (exportName source) =
          (n.child? f).map (exportName source) := by
      rw [child?_uncommented, Option.map_map]
      refine Option.map_congr fun m hm => exportName_uncommented ?_
      simpa [isRead, hk, field_of_child? hm] using Or.inr hf
    have hm := congrArg
      (Option.map fun own : String =>
        ExportSpecifier.mk own (((n.child? .alias).map (exportName source)).getD own))
      (hn .name (Or.inl rfl))
    rw [hn .alias (Or.inr rfl)]
    simpa only [Option.map_map, Function.comp_def] using hm

theorem exportSpecifiers_uncommented :
    (n.uncommented htmlIsHarmless outer).exportSpecifiers source = n.exportSpecifiers source := by
  rw [exportSpecifiers, exportSpecifiers, kind_uncommented]
  split
  case h_1 =>
    refine filterMap_namedChildren_uncommented (fun _ _ => exportSpecifier_uncommented) fun m hm => ?_
    simp [exportSpecifier, hm, NodeKind.htmlComment]
  case h_2 hk =>
    have ho : htmlIsHarmless outer n.info n.children = false := by
      simp [htmlIsHarmless, show n.info.kind = _ from hk]
    have hc : n.namedChildren.filter (fun m => !isLeftOut false m.info) = n.namedChildren := by
      refine List.filter_eq_self.2 fun m hm => ?_
      cases h : isLeftOut false m.info with
      | false => rfl
      | true =>
        have hk : m.info.kind = .htmlComment := kind_of_mem_namedChildren hm h
        simp [isLeftOut, hk, NodeKind.htmlComment] at h
    rw [namedChildren_uncommented, ho, hc, hk, List.head?_map, Option.toList_map, List.map_map]
    refine toList_map_congr fun m _ => ?_
    rw [Function.comp_apply, exportName_uncommented (by simp [isRead])]
  case h_3 => rfl

theorem defaultDeclaration_uncommented :
    (n.uncommented htmlIsHarmless outer).defaultDeclaration source =
      n.defaultDeclaration source := by
  rw [defaultDeclaration, defaultDeclaration, kind_uncommented]
  split
  case h_1 hk | h_2 hk | h_3 hk | h_4 hk =>
    refine namedDeclaration_uncommented fun m hm => ?_
    simp [isRead, hk, field_of_child? hm]
  case h_5 => rfl

theorem exportItems_uncommented (hk : n.kind = .exportStatement) :
    ((n.uncommented htmlIsHarmless outer).exportItems source).map Item.unplaced =
      (n.exportItems source).map Item.unplaced := by
  rw [exportItems, exportItems, child?_uncommented, child?_uncommented, hasToken_uncommented,
    hasToken_uncommented]
  cases n.child? .declaration with
  | some d => simp only [Option.map_some, declarations_uncommented]
  | none =>
    cases n.child? .value with
    | some v => simp only [Option.map_some, Option.map_none, defaultDeclaration_uncommented]
    | none =>
      have hs : (n.uncommented htmlIsHarmless outer).namedChildren.flatMap
          (exportSpecifiers source) = n.namedChildren.flatMap (exportSpecifiers source) := by
        refine flatMap_namedChildren_uncommented (fun _ _ => exportSpecifiers_uncommented) ?_
        intro m hm
        simp [exportSpecifiers, hm, NodeKind.htmlComment]
      have hf : ((n.uncommented htmlIsHarmless outer).child? .source).map (exportName source) =
          (n.child? .source).map (exportName source) := by
        rw [child?_uncommented, Option.map_map]
        refine Option.map_congr fun m hm => exportName_uncommented ?_
        simp [isRead, hk, field_of_child? hm]
      simp only [Option.map_none, hs, hf]
      split
      · rfl
      · split <;> rfl

theorem items_uncommented :
    ((n.uncommented htmlIsHarmless outer).items source).map Item.unplaced =
      (n.items source).map Item.unplaced := by
  rw [items, items, kind_uncommented, isTypeOnly_uncommented]
  split
  case h_1 =>
    have hb : (n.uncommented htmlIsHarmless outer).namedChildren.flatMap (importBindings source) =
        n.namedChildren.flatMap (importBindings source) := by
      refine flatMap_namedChildren_uncommented (fun _ _ => importBindings_uncommented) fun m hm => ?_
      simp [importBindings, hm, NodeKind.htmlComment]
    rw [hb]
    split <;> rfl
  case h_2 =>
    have hb : ((n.uncommented htmlIsHarmless outer).firstNamed? .identifier).toList.map
        (binding source) = (n.firstNamed? .identifier).toList.map (binding source) :=
      firstBinding_uncommented
    have hi := congrArg (List.map fun b => Item.imports ⟨[b.unplaced], default⟩) hb
    rw [List.map_map, List.map_map] at hi ⊢
    exact hi
  case h_3 hk => exact exportItems_uncommented hk
  case h_4 => rw [declarations_uncommented]

end
end Syntax.Node

open Syntax.Node

/-- Error-free trees of two texts that differ in nothing but comments: all those that the grammar
calls comments, and the HTML comments where `html` allows it. -/
structure DifferInComments (html : Option NodeKind → Node.Info → List Node → Bool)
    (s t : List Char) (n m : Node) : Prop where
  left_errorFree : n.hasError = false
  right_errorFree : m.hasError = false
  outline_eq : (n.uncommented html none).outline s = (m.uncommented html none).outline t

theorem Program.ofTree_of_errorFree {s : List Char} {n : Node} (h : n.hasError = false) :
    ofTree s n = .ok ⟨n.namedChildren.flatMap (Node.items s), n.span s⟩ := by
  rw [ofTree, if_neg (by simp [h])]

/-- The scan finds the same items, in the same order. -/
theorem Program.items_ofTree_of_differInComments {s t : List Char} {n m : Node}
    (h : DifferInComments htmlIsHarmless s t n m) :
    ∃ p q, ofTree s n = .ok p ∧ ofTree t m = .ok q ∧
      p.items.map Item.unplaced = q.items.map Item.unplaced := by
  have hi (u : List Char) (r : Node) :
      (r.uncommented htmlIsHarmless none).namedChildren.flatMap
          (fun c => (c.items u).map Item.unplaced) =
        (r.namedChildren.flatMap (Node.items u)).map Item.unplaced := by
    rw [List.map_flatMap]
    refine flatMap_namedChildren_uncommented (fun _ _ => items_uncommented) fun c hc => ?_
    simp [Node.items, Node.declarations, hc, NodeKind.htmlComment]
  have hn := flatMap_eq_of_outlines (fun _ _ h => items_congr h) (namedChildren_congr h.outline_eq)
  rw [hi, hi] at hn
  exact ⟨_, _, ofTree_of_errorFree h.left_errorFree, ofTree_of_errorFree h.right_errorFree, hn⟩

theorem Program.items_ofTree_of_differInComments_namespace :
    let s := "namespace N \x7bx\x7d".toList
    let t := "namespace/**/N \x7b<!--\nx\x7d".toList
    ∃ n m, tree? s = some n ∧ tree? t = some m ∧ DifferInComments htmlIsHarmless s t n m ∧
      ∃ p q, ofTree s n = .ok p ∧ ofTree t m = .ok q ∧
        p.items.map Item.unplaced = q.items.map Item.unplaced := by
  intro s t
  have hd : ((tree? s).bind fun n => (tree? t).map fun m =>
      (n.hasError, m.hasError, decide ((n.uncommented htmlIsHarmless none).outline s =
        (m.uncommented htmlIsHarmless none).outline t))) = some (false, false, true) := by
    decide +kernel
  obtain ⟨n, hn, hm⟩ := Option.bind_eq_some_iff.1 hd
  obtain ⟨m, hm, h⟩ := Option.map_eq_some_iff.1 hm
  simp only [Prod.mk.injEq, decide_eq_true_eq] at h
  have hc : DifferInComments htmlIsHarmless s t n m := ⟨h.1, h.2.1, h.2.2⟩
  exact ⟨n, m, hn, hm, hc, items_ofTree_of_differInComments hc⟩

/-- An HTML comment makes an empty namespace one of values. -/
theorem Program.not_items_ofTree_of_differInComments :
    let s := "namespace N \x7b\x7d".toList
    let t := "namespace N \x7b<!--\n\x7d".toList
    ∃ n m, tree? s = some n ∧ tree? t = some m ∧ DifferInComments (fun _ _ _ => true) s t n m ∧
      ∃ p q, ofTree s n = .ok p ∧ ofTree t m = .ok q ∧
        p.items.map Item.unplaced ≠ q.items.map Item.unplaced := by
  intro s t
  have hd : ((tree? s).bind fun n => (tree? t).map fun m =>
      (n.hasError, m.hasError, decide ((n.uncommented (fun _ _ _ => true) none).outline s =
        (m.uncommented (fun _ _ _ => true) none).outline t),
        decide ((n.namedChildren.flatMap (Node.items s)).map Item.unplaced =
          (m.namedChildren.flatMap (Node.items t)).map Item.unplaced))) =
      some (false, false, true, false) := by
    decide +kernel
  obtain ⟨n, hn, hm⟩ := Option.bind_eq_some_iff.1 hd
  obtain ⟨m, hm, h⟩ := Option.map_eq_some_iff.1 hm
  simp only [Prod.mk.injEq, decide_eq_true_eq, decide_eq_false_iff_not] at h
  have hc : DifferInComments (fun _ _ _ => true) s t n m := ⟨h.1, h.2.1, h.2.2.1⟩
  exact ⟨n, m, hn, hm, hc, _, _, ofTree_of_errorFree h.1, ofTree_of_errorFree h.2.1, h.2.2.2⟩

end TypeScriptRepl
