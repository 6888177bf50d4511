import Mathlib.Data.List.Forall2
import TypeScriptRepl.Proofs.Program.Lookups

/-! Trees of two texts that correspond as far as the scan looks. -/
namespace TypeScriptRepl

open Grammar Syntax

def Declaration.mapSpan (view : Span → Span) (d : Declaration) : Declaration :=
  { d with span := view d.span }

def ImportBinding.mapSpan (view : Span → Span) (b : ImportBinding) : ImportBinding :=
  { b with span := view b.span }

def Item.mapSpans (view : Span → Span) : Item → Item
  | .imports i => .imports ⟨i.bindings.map (·.mapSpan view), view i.span⟩
  | .declares d => .declares (d.mapSpan view)
  | .exports l => .exports { l with span := view l.span }

namespace Syntax

/-- Functions that bind no name in the scope around them. -/
def innerFunctions : List String := ["arrow_function", "method_definition", "method_signature",
  "abstract_method_signature", "call_signature", "construct_signature", "function_type",
  "constructor_type"]

/-- The roles of the children that the scope around a construct sees, none if it sees all children.
What has another role belongs to an inner scope, or consists of expressions and types. -/
def NodeKind.seenRoles? : NodeKind → Option (List Field)
  | .functionDeclaration | .generatorFunctionDeclaration | .functionSignature
  | .functionExpression | .function | .generatorFunction | .classDeclaration
  | .abstractClassDeclaration | .classExpression | .variableDeclarator | .internalModule
  | .module => some [.name]
  | .pairPattern => some [.value]
  | .assignmentPattern | .objectAssignmentPattern => some [.left]
  | .other name => if name ∈ innerFunctions then some [] else none
  | _ => none

def NodeKind.isNamespace (k : NodeKind) : Bool := k = .internalModule || k = .module

namespace Node

/-- Whether the scan takes over the text of a node, below one of kind `outer`, as a name. -/
def isRead (outer : Option NodeKind) (i : Info) : Bool :=
  i.kind = .identifier || i.kind = .shorthandPropertyIdentifierPattern ||
    match outer with
    | some .functionDeclaration | some .generatorFunctionDeclaration | some .functionSignature
    | some .functionExpression | some .function | some .generatorFunction | some .classDeclaration
    | some .abstractClassDeclaration | some .classExpression | some .enumDeclaration =>
      i.field = some .name
    | some .exportSpecifier => i.field = some .name || i.field = some .alias
    | some .exportStatement => i.field = some .source
    | some .namespaceExport => true
    | _ => false

theorem isRead_of_kind {n : Node}
    (h : n.kind = .identifier ∨ n.kind = .shorthandPropertyIdentifierPattern)
    (outer : Option NodeKind) : isRead outer n.info = true := by
  have hi : n.info.kind = .identifier ∨ n.info.kind = .shorthandPropertyIdentifierPattern := h
  unfold isRead
  rcases hi with hi | hi <;> simp [hi]

/-- A relation between nodes of two texts that takes every look-up of the scan from related nodes to
related nodes, given the kind above the nodes. Spans are compared as far as `view` shows them. -/
structure Corresponds (s t : List Char) (view : Span → Span)
    (R : Option NodeKind → Node → Node → Prop) : Prop where
  kind : ∀ {o n m}, R o n m → n.kind = m.kind
  field : ∀ {o n m}, R o n m → n.info.field = m.info.field
  span : ∀ {o n m}, R o n m → view (n.span s) = view (m.span t)
  text : ∀ {o n m}, R o n m → isRead o n.info = true → n.text s = m.text t
  children : ∀ {o n m}, R o n m → n.kind.seenRoles? = none →
    List.Forall₂ (R (some n.kind)) n.children m.children
  seen : ∀ {o n m fs f}, R o n m → n.kind.seenRoles? = some fs → f ∈ fs →
    Option.Rel (R (some n.kind)) (n.child? f) (m.child? f)
  body : ∀ {o n m}, R o n m → n.kind.isNamespace = true →
    Option.Rel (fun b c => b.declaresValues = c.declaresValues ∨
      List.Forall₂ (R (some b.kind)) b.children c.children) (n.child? .body) (m.child? .body)

section Parts

variable {α β γ : Type} {R : α → β → Prop} {xs : List α} {ys : List β} {o : Option α} {p : Option β}

/-- Functions that agree on related things agree on lists of things that are related one by one. -/
theorem map_eq_of_forall₂ {f : α → γ} {g : β → γ} (h : List.Forall₂ R xs ys)
    (hfg : ∀ a ∈ xs, ∀ b, R a b → f a = g b) : xs.map f = ys.map g := by
  induction h with
  | nil => rfl
  | cons hab _ ih =>
    rw [List.map_cons, List.map_cons, hfg _ List.mem_cons_self _ hab,
      ih fun a ha => hfg a (List.mem_cons_of_mem _ ha)]

theorem flatMap_eq_of_forall₂ {f : α → List γ} {g : β → List γ} (h : List.Forall₂ R xs ys)
    (hfg : ∀ a ∈ xs, ∀ b, R a b → f a = g b) : xs.flatMap f = ys.flatMap g := by
  rw [List.flatMap_def, List.flatMap_def, map_eq_of_forall₂ h hfg]

theorem filterMap_eq_of_forall₂ {f : α → Option γ} {g : β → Option γ} (h : List.Forall₂ R xs ys)
    (hfg : ∀ a ∈ xs, ∀ b, R a b → f a = g b) : xs.filterMap f = ys.filterMap g := by
  have hid := congrArg (List.filterMap id) (map_eq_of_forall₂ h hfg)
  simpa only [List.filterMap_map, Function.id_comp] using hid

theorem any_eq_of_forall₂ {f : α → Bool} {g : β → Bool} (h : List.Forall₂ R xs ys)
    (hfg : ∀ a ∈ xs, ∀ b, R a b → f a = g b) : xs.any f = ys.any g := by
  have hid := congrArg (List.any · id) (map_eq_of_forall₂ h hfg)
  simpa only [List.any_map, Function.id_comp] using hid

theorem filter_rel_of_forall₂ {f : α → Bool} {g : β → Bool} (h : List.Forall₂ R xs ys)
    (hfg : ∀ a b, R a b → f a = g b) : List.Forall₂ R (xs.filter f) (ys.filter g) :=
  List.rel_filter (fun a b hab => show f a = true ↔ g b = true by rw [hfg a b hab]) h

theorem find?_rel_of_forall₂ {f : α → Bool} {g : β → Bool} (h : List.Forall₂ R xs ys)
    (hfg : ∀ a b, R a b → f a = g b) : Option.Rel R (xs.find? f) (ys.find? g) := by
  induction h with
  | nil => exact .none
  | cons hab _ ih =>
    rw [List.find?_cons, List.find?_cons, hfg _ _ hab]
    split
    · exact .some hab
    · exact ih

theorem rel_cases (h : Option.Rel R o p) :
    (o = none ∧ p = none) ∨ ∃ a b, o = some a ∧ p = some b ∧ R a b := by
  cases h with
  | none => exact Or.inl ⟨rfl, rfl⟩
  | some h => exact Or.inr ⟨_, _, rfl, rfl, h⟩

theorem rel_mono {S : α → β → Prop} (h : Option.Rel R o p)
    (hRS : ∀ a, o = some a → ∀ b, R a b → S a b) : Option.Rel S o p := by
  cases h with
  | none => exact .none
  | some hab => exact .some (hRS _ rfl _ hab)

theorem map_eq_of_rel {f : α → γ} {g : β → γ} (h : Option.Rel R o p)
    (hfg : ∀ a, o = some a → ∀ b, R a b → f a = g b) : o.map f = p.map g := by
  rcases rel_cases h with ⟨rfl, rfl⟩ | ⟨a, b, rfl, rfl, hab⟩
  · rfl
  · rw [Option.map_some, Option.map_some, hfg a rfl b hab]

theorem optionAny_eq_of_rel {f : α → Bool} {g : β → Bool} (h : Option.Rel R o p)
    (hfg : ∀ a, o = some a → ∀ b, R a b → f a = g b) : o.any f = p.any g := by
  rcases rel_cases h with ⟨rfl, rfl⟩ | ⟨a, b, rfl, rfl, hab⟩
  · rfl
  · rw [Option.any_some, Option.any_some, hfg a rfl b hab]

theorem map_getD_nil (f : α → γ) (o : Option (List α)) :
    (o.getD []).map f = (o.map (List.map f)).getD [] := by
  cases o <;> rfl

end Parts

namespace Corresponds

variable {s t : List Char} {view : Span → Span} {R : Option NodeKind → Node → Node → Prop}
  {o : Option NodeKind} {n m : Node}

section Lookups

variable (h : Corresponds s t view R) (hn : R o n m)
include h hn

theorem isNamed_eq : n.isNamed = m.isNamed := by rw [isNamed, isNamed, h.kind hn]

theorem child?_rel (f : Field) (hf : n.kind.seenRoles?.all (f ∈ ·) = true) :
    Option.Rel (R (some n.kind)) (n.child? f) (m.child? f) := by
  cases hk : n.kind.seenRoles? with
  | none =>
    exact find?_rel_of_forall₂ (h.children hn hk) fun c d hcd => by rw [h.field hcd]
  | some fs =>
    rw [hk] at hf
    exact h.seen hn hk (by simpa using hf)

section

-- the scope around the construct sees all its children
variable (hk : n.kind.seenRoles? = none)
include hk

theorem hasToken_eq (text : String) : n.hasToken text = m.hasToken text :=
  any_eq_of_forall₂ (h.children hn hk) fun c _ d hcd => by rw [h.kind hcd]

theorem isTypeOnly_eq : n.isTypeOnly = m.isTypeOnly := by
  rw [isTypeOnly, isTypeOnly, h.hasToken_eq hn hk, h.hasToken_eq hn hk]

theorem namedChildren_rel : List.Forall₂ (R (some n.kind)) n.namedChildren m.namedChildren :=
  filter_rel_of_forall₂ (h.children hn hk) fun c d hcd => by rw [h.isNamed_eq hcd, h.kind hcd]

theorem firstNamed?_rel (k : NodeKind) :
    Option.Rel (R (some n.kind)) (n.firstNamed? k) (m.firstNamed? k) :=
  find?_rel_of_forall₂ (h.namedChildren_rel hn hk) fun c d hcd => by rw [h.kind hcd]

end

end Lookups

/-! Whether a statement makes a value. Next to it stands what this needs of the body of a namespace,
whose statements are two steps below. -/

theorem values_eq (h : Corresponds s t view R) (n : Node) :
    (∀ o m, R o n m → n.isValueStatement = m.isValueStatement) ∧
      ∀ o (m : Node), List.Forall₂ (R o) n.children m.children → n.declaresValues = m.declaresValues := by
  induction n using Node.induction with
  | step n ih =>
    refine ⟨fun o m hn => ?_, fun o m hc => ?_⟩
    · have values {p q : Option Node} (hp : ∀ c, p = some c → c ∈ n.children)
          (hpq : Option.Rel (R (some n.kind)) p q) :
          p.map isValueStatement = q.map isValueStatement :=
        map_eq_of_rel hpq fun c hc d hcd => (ih c (hp c hc)).1 _ d hcd
      rw [isValueStatement_eq, isValueStatement_eq, ← h.kind hn]
      split
      case h_4 hk => rw [h.hasToken_eq hn (by rw [hk]; rfl)]
      case h_5 hk | h_6 hk =>
        exact optionAny_eq_of_rel (h.body hn (by rw [hk]; rfl)) fun b hb c hbc =>
          hbc.elim id ((ih b (mem_of_child? hb)).2 _ c)
      case h_7 hk =>
        rw [values (fun c hc => mem_of_firstNamed? hc) (h.firstNamed?_rel hn (by rw [hk]; rfl) _)]
      case h_8 hk =>
        rw [values (fun c hc => mem_of_child? hc) (h.child?_rel hn _ (by rw [hk]; rfl)),
          h.hasToken_eq hn (by rw [hk]; rfl)]
      all_goals rfl
    · rw [declaresValues, declaresValues, anyValueStatement_eq_any, anyValueStatement_eq_any]
      refine any_eq_of_forall₂ hc fun c hc d hcd => ?_
      rw [h.isNamed_eq hcd, h.kind hcd, (ih c hc).1 _ d hcd]

section Declarations

variable (h : Corresponds s t view R) (e : Bool)
include h

theorem declaration_eq (hn : R o n m) (hr : isRead o n.info = true) (k : DeclarationKind) :
    (n.declaration s k e).mapSpan view = (m.declaration t k e).mapSpan view := by
  simp only [declaration, Declaration.mapSpan, nameText, h.text hn hr, h.span hn]

theorem patternNames_eq (n : Node) : ∀ o m, R o n m →
    (patternNames s e n).map (·.mapSpan view) = (patternNames t e m).map (·.mapSpan view) := by
  induction n using Node.induction with
  | step n ih =>
    intro o m hn
    have inRole (f : Field) (hf : n.kind.seenRoles? = some [f]) :
        ((((n.child? f).map (patternNames s e)).getD []).map (·.mapSpan view) : List Declaration) =
          (((m.child? f).map (patternNames t e)).getD []).map (·.mapSpan view) := by
      rw [map_getD_nil, map_getD_nil, Option.map_map, Option.map_map]
      exact congrArg (Option.getD · []) (map_eq_of_rel (h.seen hn hf List.mem_cons_self)
        fun c hc d hcd => ih c (mem_of_child? hc) _ d hcd)
    rw [Node.patternNames_eq, Node.patternNames_eq, ← h.kind hn]
    split
    case h_1 hk | h_2 hk =>
      have hr : isRead o n.info = true := isRead_of_kind (by simp [hk]) o
      rw [List.map_singleton, List.map_singleton, h.declaration_eq e hn hr]
    case h_3 hk | h_4 hk | h_5 hk => exact inRole _ (by rw [hk]; rfl)
    case h_6 hk | h_7 hk | h_8 hk =>
      rw [List.map_flatMap, List.map_flatMap]
      exact flatMap_eq_of_forall₂ (h.namedChildren_rel hn (by rw [hk]; rfl))
        fun c hc d hcd => ih c (mem_of_mem_namedChildren hc) _ d hcd
    case h_9 => rfl

theorem namedDeclaration_eq (hn : R o n m) (hs : n.kind.seenRoles?.all (Field.name ∈ ·) = true)
    (hr : ∀ c : Node, n.child? .name = some c → isRead (some n.kind) c.info = true)
    (k : DeclarationKind) :
    (namedDeclaration s e k n).map (·.mapSpan view) =
      (namedDeclaration t e k m).map (·.mapSpan view) := by
  have hd := map_eq_of_rel (h.child?_rel hn .name hs)
    fun c hc d hcd => h.declaration_eq e hcd (hr c hc) k
  simp only [namedDeclaration, ← Option.toList_map, Option.map_map]
  exact congrArg Option.toList hd

theorem namespaceDeclaration_eq (hn : R o n m) (hk : n.kind.isNamespace = true) :
    (namespaceDeclaration s e n).map (·.mapSpan view) =
      (namespaceDeclaration t e m).map (·.mapSpan view) := by
  have hs : n.kind.seenRoles?.all (Field.name ∈ ·) = true := by
    simp only [NodeKind.isNamespace, Bool.or_eq_true, decide_eq_true_eq] at hk
    rcases hk with hk | hk <;> rw [hk] <;> rfl
  have hname : (n.child? .name).any (·.kind = .identifier) =
      (m.child? .name).any (·.kind = .identifier) :=
    optionAny_eq_of_rel (h.child?_rel hn .name hs) fun c _ d hcd => by rw [h.kind hcd]
  have hbody : (n.child? .body).any declaresValues = (m.child? .body).any declaresValues :=
    optionAny_eq_of_rel (h.body hn hk) fun b _ c hbc => hbc.elim id ((h.values_eq b).2 _ c)
  simp only [namespaceDeclaration, ← hname, ← hbody]
  split
  case isTrue hd =>
    refine h.namedDeclaration_eq e hn hs (fun c hc => ?_) .namespace
    have hi : c.kind = .identifier := by simpa [hc] using (Bool.and_eq_true_iff.1 hd).1
    exact isRead_of_kind (Or.inl hi) _
  case isFalse => rfl

theorem declarators_rel (hn : R o n m) (hk : n.kind.seenRoles? = none) :
    List.Forall₂ (R (some n.kind)) (n.namedChildren.filter (·.kind = .variableDeclarator))
      (m.namedChildren.filter (·.kind = .variableDeclarator)) :=
  filter_rel_of_forall₂ (h.namedChildren_rel hn hk) fun c d hcd => by rw [h.kind hcd]

theorem declaratorNames_eq (hn : R o n m) (hk : n.kind = .variableDeclarator) :
    ((((n.child? .name).map (patternNames s e)).getD []).map (·.mapSpan view) : List Declaration) =
      (((m.child? .name).map (patternNames t e)).getD []).map (·.mapSpan view) := by
  rw [map_getD_nil, map_getD_nil, Option.map_map, Option.map_map]
  exact congrArg (Option.getD · []) (map_eq_of_rel (h.child?_rel hn .name (by rw [hk]; rfl))
    fun c _ d hcd => h.patternNames_eq e c _ d hcd)

theorem declarations_eq (hn : R o n m) :
    (n.declarations s e).map (·.mapSpan view) = (m.declarations t e).map (·.mapSpan view) := by
  rw [declarations, declarations, ← h.kind hn]
  split
  case h_1 hk | h_2 hk | h_3 hk | h_4 hk | h_5 hk =>
    refine h.namedDeclaration_eq e hn (by rw [hk]; rfl) (fun c hc => ?_) _
    unfold isRead
    simp [hk, field_of_child? hc]
  case h_6 hk =>
    rw [← h.hasToken_eq hn (by rw [hk]; rfl)]
    split
    · rfl
    · refine h.namedDeclaration_eq e hn (by rw [hk]; rfl) (fun c hc => ?_) _
      unfold isRead
      simp [hk, field_of_child? hc]
  case h_7 hk | h_8 hk => exact h.namespaceDeclaration_eq e hn (by rw [hk]; rfl)
  case h_9 hk =>
    rw [map_getD_nil, map_getD_nil, Option.map_map, Option.map_map]
    refine congrArg (Option.getD · [])
      (map_eq_of_rel (h.firstNamed?_rel hn (by rw [hk]; rfl) _) fun c hc d hcd => ?_)
    exact h.namespaceDeclaration_eq e hcd (by rw [kind_of_firstNamed? hc]; rfl)
  case h_10 hk | h_11 hk =>
    rw [List.map_flatMap, List.map_flatMap]
    refine flatMap_eq_of_forall₂ (h.declarators_rel hn (by rw [hk]; rfl)) fun c hc d hcd => ?_
    exact h.declaratorNames_eq e hcd (by simpa using (List.mem_filter.1 hc).2)
  case h_12 => rfl

theorem defaultDeclaration_eq (hn : R o n m) :
    (n.defaultDeclaration s).map (·.mapSpan view) =
      (m.defaultDeclaration t).map (·.mapSpan view) := by
  rw [defaultDeclaration, defaultDeclaration, ← h.kind hn]
  split
  case h_1 hk | h_2 hk | h_3 hk | h_4 hk =>
    refine h.namedDeclaration_eq false hn (by rw [hk]; rfl) (fun c hc => ?_) _
    unfold isRead
    simp [hk, field_of_child? hc]
  case h_5 => rfl

end Declarations

section Items

variable (h : Corresponds s t view R) (hn : R o n m)
include h hn

theorem binding_eq (hk : n.kind = .identifier) :
    (n.binding s).mapSpan view = (m.binding t).mapSpan view := by
  have hr : isRead o n.info = true := isRead_of_kind (Or.inl hk) o
  simp only [binding, ImportBinding.mapSpan, nameText, h.text hn hr, h.span hn]

theorem firstBinding_eq (hk : n.kind.seenRoles? = none) :
    (n.firstNamed? .identifier).map (fun c => (c.binding s).mapSpan view) =
      (m.firstNamed? .identifier).map (fun c => (c.binding t).mapSpan view) :=
  map_eq_of_rel (h.firstNamed?_rel hn hk _)
    fun _ hc _ hcd => h.binding_eq hcd (kind_of_firstNamed? hc)

theorem specifierBinding_eq :
    (n.specifierBinding s).map (·.mapSpan view) = (m.specifierBinding t).map (·.mapSpan view) := by
  by_cases hk : n.kind = .importSpecifier
  · have hs : n.kind.seenRoles? = none := by rw [hk]; rfl
    have hname (f : Field) := h.child?_rel hn f (by rw [hs]; rfl)
    have hrel : Option.Rel (R (some n.kind)) ((n.child? .alias).orElse fun _ => n.child? .name)
        ((m.child? .alias).orElse fun _ => m.child? .name) := by
      rcases rel_cases (hname .alias) with ⟨hc, hd⟩ | ⟨c, d, hc, hd, hcd⟩
      · rw [hc, hd]
        exact hname .name
      · rw [hc, hd]
        exact .some hcd
    rw [specifierBinding, specifierBinding, ← h.kind hn, ← h.isTypeOnly_eq hn hs]
    split
    · rfl
    rcases rel_cases hrel with ⟨hc, hd⟩ | ⟨c, d, hc, hd, hcd⟩
    · rw [hc, hd]
      rfl
    · rw [hc, hd, Option.filter_some, Option.filter_some, ← h.kind hcd]
      split
      case isTrue hi =>
        rw [Option.map_some, Option.map_some, Option.map_some, Option.map_some,
          h.binding_eq hcd (of_decide_eq_true hi)]
      case isFalse => rfl
  · rw [specifierBinding, specifierBinding, ← h.kind hn, if_pos (by simp [hk]),
      if_pos (by simp [hk])]

theorem clauseBindings_eq :
    (n.clauseBindings s).map (·.mapSpan view) = (m.clauseBindings t).map (·.mapSpan view) := by
  rw [clauseBindings, clauseBindings, ← h.kind hn]
  split
  case h_1 hk => rw [List.map_singleton, List.map_singleton, h.binding_eq hn hk]
  case h_2 hk =>
    simp only [← Option.toList_map, Option.map_map]
    exact congrArg Option.toList (h.firstBinding_eq hn (by rw [hk]; rfl))
  case h_3 hk =>
    rw [List.map_filterMap, List.map_filterMap]
    exact filterMap_eq_of_forall₂ (h.namedChildren_rel hn (by rw [hk]; rfl))
      fun _ _ _ hcd => h.specifierBinding_eq hcd
  case h_4 => rfl

theorem importBindings_eq :
    (n.importBindings s).map (·.mapSpan view) = (m.importBindings t).map (·.mapSpan view) := by
  rw [importBindings, importBindings, ← h.kind hn]
  split
  case h_1 hk =>
    rw [List.map_flatMap, List.map_flatMap]
    exact flatMap_eq_of_forall₂ (h.namedChildren_rel hn (by rw [hk]; rfl))
      fun _ _ _ hcd => h.clauseBindings_eq hcd
  case h_2 hk =>
    simp only [← Option.toList_map, Option.map_map]
    exact congrArg Option.toList (h.firstBinding_eq hn (by rw [hk]; rfl))
  case h_3 => rfl

theorem exportName_eq (hr : isRead o n.info = true) : n.exportName s = m.exportName t := by
  rw [exportName, exportName, nameText, nameText, h.kind hn, h.text hn hr]

theorem exportSpecifier_eq : n.exportSpecifier s = m.exportSpecifier t := by
  by_cases hk : n.kind = .exportSpecifier
  · have hs : n.kind.seenRoles? = none := by rw [hk]; rfl
    have hname (f : Field) (hf : f = .name ∨ f = .alias) :
        (n.child? f).map (exportName s) = (m.child? f).map (exportName t) := by
      refine map_eq_of_rel (h.child?_rel hn f (by rw [hs]; rfl)) fun c hc d hcd => ?_
      refine h.exportName_eq hcd ?_
      unfold isRead
      simpa [hk, field_of_child? hc] using Or.inr hf
    have hm := congrArg
      (Option.map fun own : String =>
        ExportSpecifier.mk own (((m.child? .alias).map (exportName t)).getD own))
      (hname .name (Or.inl rfl))
    rw [exportSpecifier, exportSpecifier, ← h.kind hn, ← h.hasToken_eq hn hs]
    split
    · rfl
    · rw [hname .alias (Or.inr rfl)]
      simpa only [Option.map_map, Function.comp_def] using hm
  · rw [exportSpecifier, exportSpecifier, ← h.kind hn, if_pos (by simp [hk]),
      if_pos (by simp [hk])]

theorem exportSpecifiers_eq : n.exportSpecifiers s = m.exportSpecifiers t := by
  rw [exportSpecifiers, exportSpecifiers, ← h.kind hn]
  split
  case h_1 hk =>
    exact filterMap_eq_of_forall₂ (h.namedChildren_rel hn (by rw [hk]; rfl))
      fun _ _ _ hcd => h.exportSpecifier_eq hcd
  case h_2 hk =>
    have hc := congrArg (·.head?.toList) (map_eq_of_forall₂
      (h.namedChildren_rel hn (by rw [hk]; rfl)) fun c _ d hcd =>
        congrArg (ExportSpecifier.mk "*") (h.exportName_eq hcd (by simp [isRead, hk])))
    simpa only [List.head?_map, Option.toList_map] using hc
  case h_3 => rfl

theorem exportItems_eq (hk : n.kind = .exportStatement) :
    (n.exportItems s).map (·.mapSpans view) = (m.exportItems t).map (·.mapSpans view) := by
  have hs : n.kind.seenRoles? = none := by rw [hk]; rfl
  have hchild (f : Field) := h.child?_rel hn f (by rw [hs]; rfl)
  have declares {ds es : List Declaration}
      (hd : ds.map (·.mapSpan view) = es.map (·.mapSpan view)) :
      (ds.map Item.declares).map (·.mapSpans view) =
        (es.map Item.declares).map (·.mapSpans view) := by
    have hi := congrArg (List.map Item.declares) hd
    rw [List.map_map, List.map_map] at hi ⊢
    exact hi
  rw [exportItems, exportItems, ← h.hasToken_eq hn hs, ← h.hasToken_eq hn hs]
  rcases rel_cases (hchild .declaration) with ⟨hc, hd⟩ | ⟨c, d, hc, hd, hcd⟩
  · rcases rel_cases (hchild .value) with ⟨hc', hd'⟩ | ⟨c, d, hc', hd', hcd⟩
    · have hspecifiers : n.namedChildren.flatMap (exportSpecifiers s) =
          m.namedChildren.flatMap (exportSpecifiers t) :=
        flatMap_eq_of_forall₂ (h.namedChildren_rel hn hs)
          fun _ _ _ hcd => h.exportSpecifiers_eq hcd
      have hsource : (n.child? .source).map (exportName s) =
          (m.child? .source).map (exportName t) := by
        refine map_eq_of_rel (hchild .source) fun c hc d hcd => h.exportName_eq hcd ?_
        unfold isRead
        simp [hk, field_of_child? hc]
      simp only [hc, hd, hc', hd', hspecifiers, hsource]
      split
      · rfl
      · split
        · rfl
        · simp only [List.map_cons, List.map_nil, Item.mapSpans, h.span hn]
    · simp only [hc, hd, hc', hd']
      exact declares (h.defaultDeclaration_eq hcd)
  · simp only [hc, hd]
    exact declares (h.declarations_eq _ hcd)

theorem items_eq : (n.items s).map (·.mapSpans view) = (m.items t).map (·.mapSpans view) := by
  rw [items, items, ← h.kind hn]
  split
  case h_1 hk =>
    have hs : n.kind.seenRoles? = none := by rw [hk]; rfl
    have hb := flatMap_eq_of_forall₂ (h.namedChildren_rel hn hs)
      fun _ _ _ hcd => h.importBindings_eq hcd
    rw [← h.isTypeOnly_eq hn hs]
    split
    · rfl
    · simp only [List.map_cons, List.map_nil, Item.mapSpans, List.map_flatMap, hb, h.span hn]
  case h_2 hk =>
    have hb := congrArg (fun b => (b.map fun b => Item.imports ⟨[b], view (n.span s)⟩).toList)
      (h.firstBinding_eq hn (by rw [hk]; rfl))
    simp only [Option.map_map] at hb
    simp only [← Option.toList_map, Option.map_map]
    refine hb.trans ?_
    rw [h.span hn]
    rfl
  case h_3 hk => exact h.exportItems_eq hn hk
  case h_4 =>
    have hi := congrArg (List.map Item.declares) (h.declarations_eq false hn)
    rw [List.map_map, List.map_map] at hi ⊢
    exact hi

end Items
end Corresponds
end Node
end Syntax
end TypeScriptRepl
