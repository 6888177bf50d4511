import TypeScriptRepl.Proofs.Export.Followed
import TypeScriptRepl.Proofs.Program.Denotation

/-! Declarations that stand alone and the same ones in an export statement: the same names are recorded of
both. -/
namespace TypeScriptRepl

open Grammar Syntax

namespace Syntax.Outline

/-- The statement is a declaration and nothing else. A namespace stands in it as an expression. -/
inductive Declares (d : Outline) : Outline → Prop
  | alone (notImport : d.kind ≠ .importStatement) (notExport : d.kind ≠ .exportStatement) :
      Declares d (d.inRole none)
  | asExpression {o : Outline} (kind : o.kind = .expressionStatement)
      (inner : o.firstNamed? .internalModule = some (d.inRole none)) : Declares d o

/-- The kinds that a declaration can have as an expression. -/
def expressionKinds : NodeKind → List NodeKind
  | .functionDeclaration => [.functionExpression, .function]
  | .generatorFunctionDeclaration => [.generatorFunction]
  | .classDeclaration => [.classExpression]
  | .internalModule => [.internalModule]
  | _ => []

/-- The statement exports a declaration, `asValue` as the expression that is the default. -/
inductive Exports (d : Outline) : (asValue : Bool) → Outline → Prop
  | declaration {o : Outline} (kind : o.kind = .exportStatement)
      (child : o.child? .declaration = some (d.inRole (some .declaration))) : Exports d false o
  | value {o v : Outline} (kind : o.kind = .exportStatement)
      (default : o.hasToken "default" = true) (none : o.child? .declaration = none)
      (child : o.child? .value = some v) (form : v.kind ∈ expressionKinds d.kind)
      (name : (v.child? .name).map text = (d.child? .name).map text) : Exports d true o

end Syntax.Outline

def Declaration.signature (d : Declaration) : Declaration := { d.unplaced with exported := false }

/-! All names of a declaration get the flag of the declaration. -/

namespace Syntax.Node

variable (s : List Char) (e : Bool)

theorem patternNames_flag (n : Node) : patternNames s e n =
    (patternNames s false n).map fun d => { d with exported := e } := by
  induction n using Node.induction with
  | step n ih =>
    have inRole (f : Field) : ((n.child? f).map (patternNames s e)).getD [] =
        (((n.child? f).map (patternNames s false)).getD []).map
          fun d => { d with exported := e } := by
      rw [map_getD_nil, Option.map_map]
      exact congrArg (Option.getD · []) (Option.map_congr fun c hc => ih c (mem_of_child? hc))
    rw [patternNames_eq, patternNames_eq]
    split
    case h_1 | h_2 => rfl
    case h_3 | h_4 | h_5 => exact inRole _
    case h_6 | h_7 | h_8 =>
      rw [List.map_flatMap]
      exact List.flatMap_congr fun c hc => ih c (mem_of_mem_namedChildren hc)
    case h_9 => rfl

theorem namedDeclaration_flag (k : DeclarationKind) (n : Node) : namedDeclaration s e k n =
    (namedDeclaration s false k n).map fun d => { d with exported := e } := by
  simp [namedDeclaration, declaration, Function.comp_def]

theorem namespaceDeclaration_flag (n : Node) : namespaceDeclaration s e n =
    (namespaceDeclaration s false n).map fun d => { d with exported := e } := by
  simp only [namespaceDeclaration]
  split
  · exact namedDeclaration_flag s e _ n
  · rfl

theorem declarations_flag (n : Node) : n.declarations s e =
    (n.declarations s false).map fun d => { d with exported := e } := by
  simp only [declarations]
  split
  case h_1 | h_2 | h_3 | h_4 | h_5 => exact namedDeclaration_flag s e _ n
  case h_6 =>
    split
    · rfl
    · exact namedDeclaration_flag s e _ n
  case h_7 | h_8 => exact namespaceDeclaration_flag s e n
  case h_9 =>
    cases n.firstNamed? .internalModule with
    | none => rfl
    | some m => exact namespaceDeclaration_flag s e m
  case h_10 | h_11 =>
    rw [List.map_flatMap]
    congr 1
    funext d
    cases d.child? .name with
    | none => rfl
    | some m => exact patternNames_flag s e m
  case h_12 => rfl

variable {s} {t : List Char} {n m : Node} {d : Outline}

/-- Declarations of one outline bind the same names, in whatever role they stand. -/
theorem declarations_congr_inRole {f g : Option Field} (hn : n.outline s = d.inRole f)
    (hm : m.outline t = d.inRole g) :
    (n.declarations s e).map Declaration.unplaced =
      (m.declarations t e).map Declaration.unplaced := by
  obtain ⟨i, cs⟩ := n
  obtain ⟨j, ds⟩ := m
  have inRole_none (u : List Char) (i : Info) (cs : List Node) :
      (mk { i with field := none } cs).outline u = ((mk i cs).outline u).inRole none := rfl
  have hn' := inRole_none s i cs
  have hm' := inRole_none t j ds
  rw [hn, Outline.inRole_inRole] at hn'
  rw [hm, Outline.inRole_inRole] at hm'
  exact declarations_congr (hn'.trans hm'.symm) e

theorem kind_of_outline {f : Option Field} (h : n.outline s = d.inRole f) : n.kind = d.kind := by
  have hk := congrArg Outline.kind h
  rw [kind_outline] at hk
  cases d
  exact hk

theorem exported_of_mem_declarations {e : Bool} {x : Declaration} (h : x ∈ n.declarations s e) :
    x.exported = e := by
  rw [declarations_flag] at h
  obtain ⟨_, -, rfl⟩ := List.mem_map.1 h
  rfl

/-- A declaration that stands alone says what its names are, unless it is an import. -/
theorem items_of_declares (h : d.Declares (n.outline s)) (hk : d.kind ≠ .importAlias) :
    ∃ m f, outline s m = d.inRole f ∧ n.items s = (m.declarations s false).map .declares := by
  generalize ho : n.outline s = o at h
  cases h with
  | alone notImport notExport =>
    refine ⟨n, none, ho, ?_⟩
    have hn := kind_of_outline ho
    simp only [items]
    split
    case h_1 h => exact absurd (hn.symm.trans h) notImport
    case h_2 h => exact absurd (hn.symm.trans h) hk
    case h_3 h => exact absurd (hn.symm.trans h) notExport
    case h_4 => rfl
  | asExpression kind inner =>
    subst ho
    rw [kind_outline] at kind
    rw [firstNamed?_outline, Option.map_eq_some_iff] at inner
    obtain ⟨m, hm, ho⟩ := inner
    have hmk : m.kind = .internalModule := by simpa using List.find?_some hm
    refine ⟨m, none, ho, ?_⟩
    simp only [items, declarations, kind, hm, hmk]
    rfl

theorem not_exposes_of_declares (h : d.Declares (n.outline s)) {i : Item} (hi : i ∈ n.items s)
    (name : String) : ¬i.Exposes name := by
  by_cases hk : d.kind = .importAlias
  · generalize ho : n.outline s = o at h
    cases h with
    | alone notImport notExport =>
      have hn := kind_of_outline ho
      rw [items, hn, hk] at hi
      obtain ⟨m, -, rfl⟩ := List.mem_map.1 hi
      exact id
    | asExpression kind inner =>
      have hm : (d.inRole none).kind = .internalModule := by simpa using List.find?_some inner
      cases d
      exact absurd (hm.symm.trans hk) (by decide)
  · obtain ⟨m, f, -, hm⟩ := items_of_declares h hk
    rw [hm] at hi
    obtain ⟨x, hx, rfl⟩ := List.mem_map.1 hi
    rintro ⟨he, -⟩
    rw [exported_of_mem_declarations hx] at he
    cases he

/-- An export statement says what the names of its declaration are, and that they are exported. -/
theorem items_of_exports (h : d.Exports false (n.outline s)) :
    ∃ m f, outline s m = d.inRole f ∧
      n.items s = (m.declarations s (!n.hasToken "default")).map .declares := by
  cases h with
  | declaration kind child =>
    rw [kind_outline] at kind
    rw [child?_outline, Option.map_eq_some_iff] at child
    obtain ⟨m, hm, ho⟩ := child
    refine ⟨m, _, ho, ?_⟩
    simp only [items, kind, exportItems, hm]

theorem signatures_declarations (s : List Char) (e : Bool) (n : Node) :
    (n.declarations s e).map Declaration.signature =
      ((n.declarations s false).map Declaration.unplaced).map fun d => { d with exported := false } := by
  rw [declarations_flag, List.map_map, List.map_map]
  rfl

/-- A function or class declares the same as an expression, and it does so by name. -/
theorem declarations_of_form (s t : List Char) {m v : Node}
    (h : v.kind ∈ Outline.expressionKinds m.kind) (hk : m.kind ≠ .internalModule) :
    ∃ k, m.declarations s false = namedDeclaration s false k m ∧
      v.defaultDeclaration t = namedDeclaration t false k v := by
  unfold Outline.expressionKinds at h
  split at h
  case h_1 hm =>
    rcases List.mem_cons.1 h with hv | h
    · exact ⟨.function, by simp only [declarations, hm], by simp only [defaultDeclaration, hv]⟩
    · have hv := List.mem_singleton.1 h
      exact ⟨.function, by simp only [declarations, hm], by simp only [defaultDeclaration, hv]⟩
  case h_2 hm =>
    have hv := List.mem_singleton.1 h
    exact ⟨.function, by simp only [declarations, hm], by simp only [defaultDeclaration, hv]⟩
  case h_3 hm =>
    have hv := List.mem_singleton.1 h
    exact ⟨.classDefinition, by simp only [declarations, hm], by simp only [defaultDeclaration, hv]⟩
  case h_4 hm => exact absurd hm hk
  case h_5 => exact absurd h List.not_mem_nil

/-- What a declaration by name says is a matter of that name. -/
theorem signatures_namedDeclaration (s : List Char) (e : Bool) (k : DeclarationKind) (n : Node) :
    (namedDeclaration s e k n).map Declaration.signature =
      (((n.outline s).child? .name).map Outline.text).toList.map fun name =>
        ⟨String.ofList name, k, false, default⟩ := by
  rw [child?_outline]
  cases hc : n.child? .name with
  | none => simp [namedDeclaration, hc]
  | some m => simp [namedDeclaration, hc, declaration, Declaration.signature, Declaration.unplaced,
      nameText]

end Syntax.Node

namespace Extraction

/-- In any program, items `js` are recorded as `is` would be in their place, except that the names
they bind can be reached if they are `exposed`. -/
def RecordedAs (exposed : Bool) (js is : List Item) : Prop :=
  ∀ before after σ τ,
    (ofProgram ⟨before ++ js ++ after, τ⟩).declarations.map .unplaced =
      (ofProgram ⟨before ++ is ++ after, σ⟩).declarations.map fun d =>
        { d.unplaced with exported := d.exported || (exposed && (Item.names is).contains d.name) }

/-- Programs that bind the same names, of which the second exposes some more, are recorded alike up
to the flags of those. -/
theorem declarations_ofProgram_of_signatures {p q : Program} (flag : String → Bool)
    (hb : q.bindings.map Declaration.signature = p.bindings.map Declaration.signature)
    (hx : ∀ name, q.Exposes name ↔ p.Exposes name ∨ flag name = true) :
    (ofProgram q).declarations.map .unplaced =
      (ofProgram p).declarations.map fun d =>
        { d.unplaced with exported := d.exported || flag d.name } := by
  have hs (ds : List Declaration) :
      (firstBindings ds).map Declaration.signature = firstBindings (ds.map .signature) :=
    (firstBindings_map (f := Declaration.signature) (fun _ => rfl) ds).symm
  have hflag (name : String) : ((ExportTable.ofProgram q).statementFor? name).isNone =
      (((ExportTable.ofProgram p).statementFor? name).isNone || flag name) := by
    rw [Bool.eq_iff_iff, Bool.or_eq_true, Option.isNone_iff_eq_none, Option.isNone_iff_eq_none,
      ExportTable.statementFor?_eq_none, ExportTable.statementFor?_eq_none, hx]
  have h : (firstBindings q.bindings).map Declaration.signature =
      (firstBindings p.bindings).map Declaration.signature := by
    rw [hs, hb, hs]
  have h' := congrArg (List.map fun d : Declaration =>
    { d with exported := ((ExportTable.ofProgram q).statementFor? d.name).isNone }) h
  rw [List.map_map, List.map_map] at h'
  rw [declarations_ofProgram, declarations_ofProgram, List.map_map, List.map_map]
  refine h'.trans (List.map_congr_left fun d _ => ?_)
  exact congrArg (fun e => { d.signature with exported := e }) (hflag d.name)

theorem exposes_declares (before after : List Item) (ds : List Declaration) (σ : Span)
    (name : String) :
    Program.Exposes ⟨before ++ ds.map .declares ++ after, σ⟩ name ↔
      (∃ i ∈ before ++ after, i.Exposes name) ∨ ∃ d ∈ ds, d.exported = true ∧ d.name = name := by
  have hd : (∃ i ∈ ds.map Item.declares, i.Exposes name) ↔
      ∃ d ∈ ds, d.exported = true ∧ d.name = name := by
    constructor
    · rintro ⟨i, hi, h⟩
      obtain ⟨d, hd, rfl⟩ := List.mem_map.1 hi
      exact ⟨d, hd, h⟩
    · rintro ⟨d, hd, h⟩
      exact ⟨_, List.mem_map_of_mem hd, h⟩
  rw [← hd]
  simp only [Program.Exposes, List.mem_append]
  grind

/-- Declarations that say the same are recorded alike, and reached if they are exported. -/
theorem recordedAs_of_signatures {exposed : Bool} {es ds : List Declaration}
    (hs : es.map Declaration.signature = ds.map Declaration.signature)
    (he : ∀ d ∈ es, d.exported = exposed) (hd : ∀ d ∈ ds, d.exported = false) :
    RecordedAs exposed (es.map .declares) (ds.map .declares) := by
  intro before after σ τ
  have hnames : es.map (·.name) = ds.map (·.name) := by
    have h := congrArg (List.map (·.name)) hs
    rwa [List.map_map, List.map_map] at h
  refine declarations_ofProgram_of_signatures
    (fun name => exposed && (Item.names (ds.map .declares)).contains name) ?_ fun name => ?_
  · simp only [Program.bindings, List.flatMap_append, List.map_append, Item.bindings_declares, hs]
  · have hes : (∃ d ∈ es, d.exported = true ∧ d.name = name) ↔
        exposed = true ∧ name ∈ ds.map (·.name) := by
      rw [← hnames, List.mem_map]
      grind
    have hds : ¬∃ d ∈ ds, d.exported = true ∧ d.name = name := by grind
    rw [exposes_declares, exposes_declares, hes, or_iff_left hds, Bool.and_eq_true,
      List.contains_iff_mem, Item.names, Item.bindings_declares]

/-- Only what binds nothing can be left out. -/
theorem recordedAs_nil_iff {exposed : Bool} {is : List Item}
    (hx : ∀ i ∈ is, ∀ name, ¬i.Exposes name) :
    RecordedAs exposed [] is ↔ is.flatMap Item.bindings = [] := by
  constructor
  · intro h
    have h0 := h [] [] default default
    have hd : (ofProgram ⟨[] ++ is ++ [], default⟩).declarations = [] := by
      rwa [eq_comm, show (ofProgram ⟨[] ++ [] ++ [], default⟩).declarations = [] from rfl,
        List.map_nil, List.map_eq_nil_iff] at h0
    have hn := names_declarations_ofProgram ⟨[] ++ is ++ [], default⟩
    rw [hd, symbols_ofProgram_eq_eraseDups, List.nil_append, List.append_nil] at hn
    refine List.eq_nil_iff_forall_not_mem.2 fun d hmem => ?_
    have hm : d.name ∈ (Item.names is).eraseDups := List.mem_eraseDups.2 (List.mem_map_of_mem hmem)
    rw [← hn] at hm
    exact List.not_mem_nil hm
  · intro hi before after σ τ
    refine declarations_ofProgram_of_signatures
      (fun name => exposed && (Item.names is).contains name) ?_ fun name => ?_
    · simp only [Program.bindings, List.flatMap_append, hi, List.flatMap_nil]
    · have hn : (Item.names is).contains name = false := by simp [Item.names, hi]
      simp only [Program.Exposes, hn, Bool.and_false, Bool.false_eq_true, or_false, List.append_nil,
        List.mem_append]
      grind

section

variable {s t : List Char} {b x : Node} {d : Outline} {asValue : Bool}

theorem recordedAs_of_declaration (hb : d.Declares (b.outline s)) (hx : d.Exports false (x.outline t))
    (hk : d.kind ≠ .importAlias) :
    RecordedAs (!x.hasToken "default") (x.items t) (b.items s) := by
  obtain ⟨m, f, hm, hbi⟩ := Node.items_of_declares hb hk
  obtain ⟨n, g, hn, hxi⟩ := Node.items_of_exports hx
  rw [hbi, hxi]
  refine recordedAs_of_signatures ?_ (fun _ => Node.exported_of_mem_declarations)
    fun _ => Node.exported_of_mem_declarations
  rw [Node.signatures_declarations, Node.signatures_declarations,
    Node.declarations_congr_inRole false hn hm]

/-- A function or class that is exported as an expression is recorded as its declaration. -/
theorem recordedAs_of_value (hb : d.Declares (b.outline s)) (hx : d.Exports true (x.outline t))
    (hk : d.kind ≠ .internalModule) :
    RecordedAs (!x.hasToken "default") (x.items t) (b.items s) := by
  cases hx with
  | value kind default none child form name =>
    rw [Node.kind_outline] at kind
    rw [Node.hasToken_outline] at default
    rw [Node.child?_outline, Option.map_eq_none_iff] at none
    rw [Node.child?_outline, Option.map_eq_some_iff] at child
    obtain ⟨v, hv, rfl⟩ := child
    have halias : d.kind ≠ .importAlias := by
      intro h
      rw [h] at form
      exact absurd form List.not_mem_nil
    obtain ⟨m, f, hm, hbi⟩ := Node.items_of_declares hb halias
    have hmk := Node.kind_of_outline hm
    rw [← hmk, Node.kind_outline] at form
    obtain ⟨k, hmd, hvd⟩ := Node.declarations_of_form s t form (hmk ▸ hk)
    have hxi : x.items t = (Node.namedDeclaration t false k v).map .declares := by
      simp only [Node.items, kind, Node.exportItems, none, hv, hvd]
    have hname : (m.outline s).child? .name = d.child? .name := by
      rw [hm]
      cases d
      rfl
    have hs := Node.signatures_namedDeclaration
    rw [default, hxi, hbi, hmd]
    refine recordedAs_of_signatures ?_ ?_ ?_
    · rw [hs, hs, name, hname]
    all_goals
      intro y hy
      obtain ⟨_, -, rfl⟩ := List.mem_map.1 hy
      rfl

/-- An import binds nothing when it is exported, and neither does a namespace that is the default. -/
theorem items_eq_nil_of_exports (hx : d.Exports asValue (x.outline t))
    (h : d.kind = .importAlias ∨ asValue = true ∧ d.kind = .internalModule) : x.items t = [] := by
  cases hx with
  | declaration kind child =>
    obtain ⟨m, f, hm, hi⟩ := Node.items_of_exports (.declaration kind child)
    have hk : m.kind = .importAlias := by
      rw [Node.kind_of_outline hm]
      simpa using h
    rw [hi]
    simp only [Node.declarations, hk, List.map_nil]
  | value kind default none child form name =>
    rw [Node.kind_outline] at kind
    rw [Node.child?_outline, Option.map_eq_none_iff] at none
    rw [Node.child?_outline, Option.map_eq_some_iff] at child
    obtain ⟨v, hv, rfl⟩ := child
    have hvk : v.kind = .internalModule := by
      rcases h with h | ⟨-, h⟩
      · rw [h] at form
        exact absurd form List.not_mem_nil
      · rw [h, Node.kind_outline] at form
        exact List.mem_singleton.1 form
    simp only [Node.items, kind, Node.exportItems, none, hv, Node.defaultDeclaration, hvk,
      List.map_nil]

/-- Exporting a declaration changes nothing of what is recorded of it but that it is exported, unless
it is an import, or a namespace that is the default. Those bind nothing when they are exported. -/
theorem recordedAs_exported_iff (hb : d.Declares (b.outline s))
    (hx : d.Exports asValue (x.outline t)) :
    RecordedAs (!x.hasToken "default") (x.items t) (b.items s) ↔
      (d.kind ≠ .importAlias ∧ (asValue = true → d.kind ≠ .internalModule)) ∨
        (b.items s).flatMap Item.bindings = [] := by
  by_cases hk : d.kind ≠ .importAlias ∧ (asValue = true → d.kind ≠ .internalModule)
  · refine ⟨fun _ => Or.inl hk, fun _ => ?_⟩
    cases asValue with
    | false => exact recordedAs_of_declaration hb hx hk.1
    | true => exact recordedAs_of_value hb hx (hk.2 rfl)
  · have hnil : x.items t = [] := by
      apply items_eq_nil_of_exports hx
      by_cases ha : d.kind = .importAlias
      · exact Or.inl ha
      · right
        simpa [ha] using hk
    rw [or_iff_right hk, hnil]
    exact recordedAs_nil_iff fun i hi => Node.not_exposes_of_declares hb hi

end

def firstStatement? (text : List Char) : Option Node :=
  (tree? text).bind (·.namedChildren.head?)

def calledNamespace : Outline :=
  .mk .internalModule none "namespace N \x7b x \x7d".toList
    [.mk (.token "namespace") none "namespace".toList [],
      .mk .identifier (some .name) "N".toList [],
      .mk (.other "statement_block") (some .body) "\x7b x \x7d".toList
        [.mk (.token "\x7b") none "\x7b".toList [],
          .mk .expressionStatement none "x".toList [.mk .identifier none "x".toList []],
          .mk (.token "\x7d") none "\x7d".toList []]]

theorem recordedAs_exported_calledNamespace :
    let s := "namespace N \x7b x \x7d".toList
    let t := "export namespace N \x7b x \x7d".toList
    ∃ b x, firstStatement? s = some b ∧ firstStatement? t = some x ∧
      calledNamespace.Declares (b.outline s) ∧ calledNamespace.Exports false (x.outline t) ∧
      Item.names (b.items s) = ["N"] ∧ RecordedAs true (x.items t) (b.items s) := by
  intro s t
  have hs : (firstStatement? s).map (fun b => ((b.outline s).kind,
      (b.outline s).firstNamed? .internalModule, Item.names (b.items s))) =
        some (.expressionStatement, some (calledNamespace.inRole none), ["N"]) := by decide +kernel
  have ht : (firstStatement? t).map (fun x => ((x.outline t).kind,
      (x.outline t).child? .declaration, x.hasToken "default")) =
        some (.exportStatement, some (calledNamespace.inRole (some .declaration)), false) := by
    decide +kernel
  obtain ⟨b, hb, hbs⟩ := Option.map_eq_some_iff.1 hs
  obtain ⟨x, hx, hxt⟩ := Option.map_eq_some_iff.1 ht
  simp only [Prod.mk.injEq] at hbs hxt
  have hd : calledNamespace.Declares (b.outline s) := .asExpression hbs.1 hbs.2.1
  have he : calledNamespace.Exports false (x.outline t) := .declaration hxt.1 hxt.2.1
  have h := (recordedAs_exported_iff hd he).2 (Or.inl ⟨by decide, nofun⟩)
  rw [hxt.2.2] at h
  exact ⟨b, x, hb, hx, hd, he, hbs.2.2, h⟩

def namespaceAlias : Outline :=
  .mk .importAlias none "import x = A.B".toList
    [.mk (.token "import") none "import".toList [], .mk .identifier none "x".toList [],
      .mk (.token "=") none "=".toList [],
      .mk (.other "nested_identifier") none "A.B".toList
        [.mk .identifier none "A".toList [], .mk (.token ".") none ".".toList [],
          .mk (.other "property_identifier") none "B".toList []]]

/-- The name is lost when it is exported, although it is then part of what the module exports. -/
theorem not_recordedAs_exported_namespaceAlias :
    let s := "import x = A.B".toList
    let t := "export import x = A.B".toList
    ∃ b x, firstStatement? s = some b ∧ firstStatement? t = some x ∧
      namespaceAlias.Declares (b.outline s) ∧ namespaceAlias.Exports false (x.outline t) ∧
      Item.names (b.items s) = ["x"] ∧ x.items t = [] ∧
      ¬RecordedAs true (x.items t) (b.items s) := by
  intro s t
  have hs : (firstStatement? s).map (fun b => (b.outline s, Item.names (b.items s))) =
      some (namespaceAlias.inRole none, ["x"]) := by decide +kernel
  have ht : (firstStatement? t).map (fun x => ((x.outline t).kind,
      (x.outline t).child? .declaration)) =
        some (.exportStatement, some (namespaceAlias.inRole (some .declaration))) := by
    decide +kernel
  obtain ⟨b, hb, hbs⟩ := Option.map_eq_some_iff.1 hs
  obtain ⟨x, hx, hxt⟩ := Option.map_eq_some_iff.1 ht
  simp only [Prod.mk.injEq] at hbs hxt
  have hd : namespaceAlias.Declares (b.outline s) := by
    rw [hbs.1]
    exact .alone (by decide) (by decide)
  have he : namespaceAlias.Exports false (x.outline t) := .declaration hxt.1 hxt.2
  have hnil : x.items t = [] := items_eq_nil_of_exports he (Or.inl rfl)
  refine ⟨b, x, hb, hx, hd, he, hbs.2, hnil, ?_⟩
  rw [hnil, recordedAs_nil_iff fun i hi => Node.not_exposes_of_declares hd hi]
  intro h
  have hn := hbs.2
  rw [Item.names, h] at hn
  cases hn

end Extraction
end TypeScriptRepl
