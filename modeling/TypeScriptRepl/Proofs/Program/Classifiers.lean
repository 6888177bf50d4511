import TypeScriptRepl.Proofs.Program.Namespaces
import TypeScriptRepl.Proofs.Program.Patterns

/-! Two answers to whether a statement is one of values: the one for namespaces, and the one for the
outermost scope. -/
namespace TypeScriptRepl

open Grammar Syntax

namespace Syntax

def NodeKind.isDefinition (k : NodeKind) : Bool :=
  k = .functionDeclaration || k = .generatorFunctionDeclaration || k = .functionSignature ||
    k = .classDeclaration || k = .abstractClassDeclaration || k = .enumDeclaration

namespace Node

variable {s : List Char} {e : Bool} {o d m x : Node}

/-- What an export gives a value for is no type. The grammar has no such form. -/
def ValueIsNoType (o : Node) : Prop :=
  o.kind = .exportStatement → (o.child? .value).isSome = true → o.hasToken "type" = false

/-- A declaration with a plain name, or of variables whose targets bind one identifier at least. -/
inductive DeclaresNames : Node → Prop
  | named {d x : Node} (hd : d.kind.isDefinition = true) (hx : d.child? .name = some x) :
      DeclaresNames d
  | space {d m : Node} (hd : d.Bare m) (hm : m.HasSimpleName) : DeclaresNames d
  | targets {d : Node} {ts : List (Node × List Node)} (hd : d.DeclaresAll ts)
      (hts : ts.flatMap (·.2) ≠ []) : DeclaresNames d

def BindsOnlyUndefined (d : Node) : Prop :=
  ∃ ts, d.DeclaresAll ts ∧ ∀ x ∈ ts.flatMap (·.2), x.kind = .undefined

/-- Statement `o` is the declaration `d`, with an export or without. A namespace that is exported as the
default is the value of the export. -/
inductive Stands : Node → Node → Prop
  | bare {d : Node} : Stands d d
  | exported {o d : Node} (ho : o.kind = .exportStatement)
      (hd : o.child? .declaration = some d) : Stands o d
  | default {o m : Node} (h : o.ExportsDefault m) : Stands o m

/-! What is recorded makes a value. -/

theorem namespaceDeclaration_ne_nil (h : m.namespaceDeclaration s e ≠ []) :
    (m.child? .body).any declaresValues = true := by
  rw [namespaceDeclaration] at h
  split at h
  · rename_i hm
    exact (Bool.and_eq_true_iff.1 hm).2
  · exact absurd rfl h

/-- A declaration that binds names makes a value: a case for each kind. -/
theorem isValueStatement_of_declarations (h : d.declarations s e ≠ []) :
    d.isValueStatement = true := by
  rw [declarations] at h
  split at h
  case h_6 hk =>
    rw [isValueStatement_eq, hk]
    split at h
    · exact absurd rfl h
    · rename_i hc
      simpa using hc
  case h_7 hk | h_8 hk =>
    rw [isValueStatement_eq, hk]
    exact namespaceDeclaration_ne_nil h
  case h_9 hk =>
    cases hm : d.firstNamed? .internalModule with
    | none =>
      rw [hm] at h
      exact absurd rfl h
    | some m =>
      rw [hm] at h
      rw [(Bare.statement hk hm).isValueStatement_eq]
      exact namespaceDeclaration_ne_nil h
  case h_12 => exact absurd rfl h
  all_goals
    rename_i hk
    rw [isValueStatement_eq, hk]

theorem isValueStatement_of_items (ho : o.ValueIsNoType) (h : o.items s ≠ []) :
    o.isValueStatement = true := by
  rw [items] at h
  split at h
  case h_1 hk | h_2 hk => rw [isValueStatement_eq, hk]
  case h_3 hk =>
    rw [exportItems] at h
    split at h
    case h_1 d hd =>
      rw [isValueStatement_exported hk hd]
      exact isValueStatement_of_declarations fun hn => h (by rw [hn]; rfl)
    case h_2 hd =>
      have hvalue : o.isValueStatement = !o.hasToken "type" := by
        rw [isValueStatement_eq, hk, hd]
        rfl
      rw [hvalue, Bool.not_eq_true']
      split at h
      case h_1 v hv => exact ho hk (by rw [hv]; rfl)
      case h_2 hv =>
        split at h
        case isTrue => exact absurd rfl h
        case isFalse ht => exact Bool.eq_false_iff.2 ht
  case h_4 => exact isValueStatement_of_declarations fun hn => h (by rw [hn]; rfl)

/-! What declares names and makes a value is recorded. -/

theorem namedDeclaration_ne_nil {k : DeclarationKind} (hx : d.child? .name = some x) :
    d.namedDeclaration s e k ≠ [] := by
  rw [namedDeclaration, hx]
  exact List.cons_ne_nil _ _

theorem declarations_of_definition (hd : d.kind.isDefinition = true) (hx : d.child? .name = some x)
    (h : d.isValueStatement = true) : d.declarations s e ≠ [] := by
  simp only [NodeKind.isDefinition, Bool.or_eq_true, decide_eq_true_eq] at hd
  rw [isValueStatement_eq] at h
  rw [declarations]
  rcases hd with ((((hk | hk) | hk) | hk) | hk) | hk <;> rw [hk] at h ⊢
  case inr =>
    rw [if_neg (by simpa using h)]
    exact namedDeclaration_ne_nil hx
  all_goals exact namedDeclaration_ne_nil hx

theorem declarations_of_namespace (hd : d.Bare m) (hm : m.HasSimpleName)
    (h : d.isValueStatement = true) : d.declarations s e ≠ [] := by
  obtain ⟨x, hx, hk⟩ := hm
  rw [hd.isValueStatement_eq] at h
  rw [hd.declarations_eq, namespaceDeclaration, if_pos (by simp [hx, hk, h])]
  exact namedDeclaration_ne_nil hx

/-- Declarations of variables make values, whatever they bind. -/
theorem DeclaresAll.isValueStatement {ts : List (Node × List Node)} (hd : d.DeclaresAll ts) :
    d.isValueStatement = true := by
  rw [isValueStatement_eq]
  rcases hd.kind with hk | hk <;> rw [hk]

theorem DeclaresAll.declarations_eq_nil_iff {ts : List (Node × List Node)} (hd : d.DeclaresAll ts) :
    d.declarations s e = [] ↔ ∀ x ∈ ts.flatMap (·.2), x.kind = .undefined := by
  rw [hd.declarations_eq, knownRecords, recordsOf, List.map_eq_nil_iff, List.filter_eq_nil_iff]
  simp only [decide_eq_true_eq, Decidable.not_not]

theorem bindsOnlyUndefined_iff {ts : List (Node × List Node)} (hd : d.DeclaresAll ts) :
    d.BindsOnlyUndefined ↔ d.declarations s e = [] :=
  ⟨fun ⟨_, hd', hu⟩ => hd'.declarations_eq_nil_iff.2 hu,
    fun h => ⟨ts, hd, hd.declarations_eq_nil_iff.1 h⟩⟩

/-- Only declarations of variables can bind `undefined`. -/
theorem BindsOnlyUndefined.kind (h : d.BindsOnlyUndefined) :
    d.kind = .lexicalDeclaration ∨ d.kind = .variableDeclaration := by
  obtain ⟨_, hd, -⟩ := h
  exact hd.kind

/-- A declaration that makes a value is recorded, unless it binds nothing but `undefined`. -/
theorem DeclaresNames.classified_iff (h : d.DeclaresNames) :
    (d.isValueStatement = true ↔ d.declarations s e ≠ []) ↔ ¬d.BindsOnlyUndefined := by
  cases h with
  | named hd hx =>
    refine iff_of_true ⟨declarations_of_definition hd hx, isValueStatement_of_declarations⟩ ?_
    intro hu
    rcases hu.kind with hk | hk <;> simp [hk, NodeKind.isDefinition] at hd
  | space hd hm =>
    refine iff_of_true ⟨declarations_of_namespace hd hm, isValueStatement_of_declarations⟩ ?_
    intro hu
    have hk := hd.kind
    rcases hu.kind with hu | hu <;> simp [hu, NodeKind.isNamespace] at hk
  | targets hd _ =>
    rw [bindsOnlyUndefined_iff (s := s) (e := e) hd, hd.isValueStatement]
    simp only [true_iff, ne_eq]

theorem DeclaresNames.items_eq (h : d.DeclaresNames) :
    d.items s = (d.declarations s false).map .declares := by
  have hk : d.kind ≠ .importStatement ∧ d.kind ≠ .importAlias ∧ d.kind ≠ .exportStatement := by
    cases h with
    | named hd _ =>
      refine ⟨?_, ?_, ?_⟩ <;> rintro hk <;> simp [hk, NodeKind.isDefinition] at hd
    | space hd _ =>
      have hb := hd.kind
      refine ⟨?_, ?_, ?_⟩ <;> rintro hk <;> simp [hk, NodeKind.isNamespace] at hb
    | targets hd _ =>
      have hv := hd.kind
      refine ⟨?_, ?_, ?_⟩ <;> rintro hk <;> simp [hk] at hv
  rw [items]
  split
  case h_1 hi => exact absurd hi hk.1
  case h_2 hi => exact absurd hi hk.2.1
  case h_3 hi => exact absurd hi hk.2.2
  case h_4 => rfl

theorem items_exported (ho : o.kind = .exportStatement) (hd : o.child? .declaration = some d) :
    o.items s = (d.declarations s (!o.hasToken "default")).map .declares := by
  rw [items, ho]
  simp only [exportItems, hd]

/-- What is recorded for a statement, of whatever kind, makes a value. What declares names, with an
export or without, makes a value if and only if it is recorded, and this fails exactly if it binds
nothing but `undefined`, or is a namespace that is exported as the default. -/
theorem value_statements_are_recorded (s : List Char) :
    (∀ o : Node, o.ValueIsNoType → o.items s ≠ [] → o.isValueStatement = true) ∧
    ∀ o d : Node, o.Stands d → d.DeclaresNames →
      ((o.isValueStatement = true ↔ o.items s ≠ []) ↔ ¬d.BindsOnlyUndefined ∧ ¬o.ExportsDefault d) ∧
      (¬o.ExportsDefault d → o.isValueStatement = d.isValueStatement ∧
        ∃ e, o.items s = (d.declarations s e).map .declares) := by
  refine ⟨fun o ho => isValueStatement_of_items ho, fun o d hod hd => ?_⟩
  have hdeclares (e : Bool) : (d.declarations s e).map Item.declares ≠ [] ↔ d.declarations s e ≠ [] := by
    rw [ne_eq, List.map_eq_nil_iff]
  cases hod with
  | bare =>
    have hn : ¬o.ExportsDefault o := by
      intro h
      have hk := h.isNamespace
      simp [h.kind, NodeKind.isNamespace] at hk
    refine ⟨?_, fun _ => ⟨rfl, false, hd.items_eq⟩⟩
    rw [hd.items_eq, hdeclares, hd.classified_iff]
    simp [hn]
  | exported ho hc =>
    have hn : ¬o.ExportsDefault d := fun h => by cases hc.symm.trans h.declaration
    refine ⟨?_, fun _ => ⟨isValueStatement_exported ho hc, _, items_exported ho hc⟩⟩
    rw [items_exported ho hc, hdeclares, isValueStatement_exported ho hc, hd.classified_iff]
    simp [hn]
  | default h =>
    have hv : o.isValueStatement = true := by
      rw [isValueStatement_eq, h.kind]
      simp [h.declaration, h.notOfTypes]
    refine ⟨?_, fun hn => absurd h hn⟩
    simp [h, h.items_eq, hv]

/-- A namespace that is exported under its own name. -/
theorem value_statements_are_recorded_namespace :
    let text := "export namespace N{let[a]=b}".toList
    ∃ root o d, tree? text = some root ∧ root.hasError = false ∧ o ∈ root.children ∧ o.Stands d ∧
      d.DeclaresNames ∧ o.ValueIsNoType ∧ o.items text ≠ [] ∧ o.isValueStatement = true ∧
      d.isValueStatement = true := by
  intro text
  have hd : ((tree? text).bind fun root => root.children.head?.bind fun o =>
      (o.child? .declaration).bind fun d => (d.child? .name).map fun x =>
        (root.hasError, o.kind, (o.child? .value).isSome, d.kind, x.kind, d.isValueStatement)) =
      some (false, .exportStatement, false, .internalModule, .identifier, true) := by
    decide +kernel
  obtain ⟨root, hr, hd⟩ := Option.bind_eq_some_iff.1 hd
  obtain ⟨o, ho, hd⟩ := Option.bind_eq_some_iff.1 hd
  obtain ⟨d, hc, hd⟩ := Option.bind_eq_some_iff.1 hd
  obtain ⟨x, hx, hd⟩ := Option.map_eq_some_iff.1 hd
  simp only [Prod.mk.injEq] at hd
  obtain ⟨he, hk, hv, hm, hi, hvalue⟩ := hd
  have hstands : o.Stands d := .exported hk hc
  have hnames : d.DeclaresNames := .space (.itself (by rw [hm]; rfl)) ⟨x, hx, hi⟩
  have hform : o.ValueIsNoType := fun _ h => by rw [hv] at h; cases h
  have hnot : ¬o.ExportsDefault d := fun h => by cases hc.symm.trans h.declaration
  have hknown : ¬d.BindsOnlyUndefined := fun h => by rcases h.kind with h | h <;> simp [h] at hm
  obtain ⟨hrecorded, hagree⟩ := value_statements_are_recorded text
  obtain ⟨hiff, hsame⟩ := hagree o d hstands hnames
  have hitems : o.items text ≠ [] := (hiff.2 ⟨hknown, hnot⟩).1 ((hsame hnot).1.trans hvalue)
  exact ⟨root, o, d, hr, he, List.mem_of_head? ho, hstands, hnames, hform, hitems,
    hrecorded o hform hitems, hvalue⟩

/-- Variables that are all called `undefined` make a value and are not recorded. -/
theorem not_value_statements_are_recorded :
    let text := "let[undefined]=x".toList
    ∃ root o, tree? text = some root ∧ root.hasError = false ∧ o ∈ root.children ∧
      o.DeclaresNames ∧ ¬(o.isValueStatement = true ↔ o.items text ≠ []) := by
  intro text
  have hd : ((tree? text).bind fun root => root.children.head?.bind fun o =>
      (targets? (o.children.filter (·.kind = .variableDeclarator))).map fun ts =>
        (root.hasError, o.kind, (ts.flatMap (·.2)).isEmpty, o.isValueStatement,
          (o.items text).isEmpty)) =
      some (false, .lexicalDeclaration, false, true, true) := by
    decide +kernel
  obtain ⟨root, hr, hd⟩ := Option.bind_eq_some_iff.1 hd
  obtain ⟨o, ho, hd⟩ := Option.bind_eq_some_iff.1 hd
  obtain ⟨ts, hts, hd⟩ := Option.map_eq_some_iff.1 hd
  simp only [Prod.mk.injEq, List.isEmpty_iff] at hd
  obtain ⟨he, hk, hsome, hvalue, hitems⟩ := hd
  have hdeclares : o.DeclaresAll ts := ⟨Or.inl hk, declaresBy_of_targets? _ ts hts⟩
  refine ⟨root, o, hr, he, List.mem_of_head? ho, .targets hdeclares ?_, fun h => ?_⟩
  · rwa [List.isEmpty_eq_false_iff] at hsome
  · exact h.1 hvalue hitems

end Node
end Syntax
end TypeScriptRepl
