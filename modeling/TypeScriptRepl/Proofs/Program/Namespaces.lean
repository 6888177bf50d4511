import TypeScriptRepl.Proofs.Program.FirstError

/-! Which namespaces are recorded, at any depth of nested ones. -/
namespace TypeScriptRepl

open Grammar Syntax

namespace Syntax.Node

/-- Statement `o` is the namespace `m`, without an export. -/
inductive Bare : Node → Node → Prop
  | itself {m : Node} (hm : m.kind.isNamespace = true) : Bare m m
  | statement {o m : Node} (ho : o.kind = .expressionStatement)
      (hm : o.firstNamed? .internalModule = some m) : Bare o m

structure ExportsDefault (o m : Node) : Prop where
  kind : o.kind = .exportStatement
  declaration : o.child? .declaration = none
  value : o.child? .value = some m
  isNamespace : m.kind.isNamespace = true
  notOfTypes : o.hasToken "type" = false

inductive Presents : Node → Node → Prop
  | bare {o m : Node} (h : o.Bare m) : Presents o m
  | exported {o d m : Node} (ho : o.kind = .exportStatement)
      (hd : o.child? .declaration = some d) (h : Presents d m) : Presents o m
  | default {o m : Node} (h : o.ExportsDefault m) : Presents o m

/-- Statements of which nothing is left at run time: interfaces, type aliases, ambient declarations,
const enums, exports of these, and exports of types only. -/
inductive IsErased : Node → Prop
  | interface {o : Node} (ho : o.kind = .interfaceDeclaration) : IsErased o
  | alias {o : Node} (ho : o.kind = .typeAliasDeclaration) : IsErased o
  | ambient {o : Node} (ho : o.kind = .ambientDeclaration) : IsErased o
  | constEnum {o : Node} (ho : o.kind = .enumDeclaration) (hc : o.hasToken "const" = true) :
      IsErased o
  | exported {o d : Node} (ho : o.kind = .exportStatement)
      (hd : o.child? .declaration = some d) (h : IsErased d) : IsErased o
  | ofTypes {o : Node} (ho : o.kind = .exportStatement) (hd : o.child? .declaration = none)
      (ht : o.hasToken "type" = true) : IsErased o

/-- A statement of which something is left at run time, namespaces aside. Comments of the other kind
are not among the named nodes. -/
structure IsRuntime (o : Node) : Prop where
  noComment : o.kind ≠ .htmlComment
  notErased : ¬o.IsErased
  noNamespace : ∀ m, ¬o.Presents m

/-- What the scan takes for a statement with values, whatever there is in it. -/
inductive IsMisread : Node → Prop
  | comment {o : Node} (ho : o.kind = .htmlComment) : IsMisread o
  | default {o m : Node} (h : o.ExportsDefault m) : IsMisread o
  | exported {o d : Node} (ho : o.kind = .exportStatement)
      (hd : o.child? .declaration = some d) (h : IsMisread d) : IsMisread o

/-- A statement with `P` stands in the body of a namespace, or in that of a namespace nested in it, at
any depth. -/
inductive Reaches (P : Node → Prop) : Node → Prop
  | here {m b o : Node} (hb : m.child? .body = some b) (ho : o ∈ b.namedChildren) (h : P o) :
      Reaches P m
  | nested {m b o m' : Node} (hb : m.child? .body = some b) (ho : o ∈ b.namedChildren)
      (hm : o.Presents m') (h : Reaches P m') : Reaches P m

variable {o d m : Node} {P Q : Node → Prop}

theorem reaches_or : m.Reaches (fun o => P o ∨ Q o) ↔ m.Reaches P ∨ m.Reaches Q := by
  constructor
  · intro h
    induction h with
    | here hb ho h => exact h.imp (.here hb ho) (.here hb ho)
    | nested hb ho hm _ ih => exact ih.imp (.nested hb ho hm) (.nested hb ho hm)
  · rintro (h | h)
    · induction h with
      | here hb ho h => exact .here hb ho (Or.inl h)
      | nested hb ho hm _ ih => exact .nested hb ho hm ih
    · induction h with
      | here hb ho h => exact .here hb ho (Or.inr h)
      | nested hb ho hm _ ih => exact .nested hb ho hm ih

/-! Whether a statement makes a value, in these terms: by induction on the node, for an export is
what it exports. -/

section Exports

variable (ho : o.kind = .exportStatement) (hd : o.child? .declaration = some d)
include ho hd

theorem isValueStatement_exported : o.isValueStatement = d.isValueStatement := by
  rw [isValueStatement_eq]
  simp [ho, hd]

theorem isErased_exported : o.IsErased ↔ d.IsErased := by
  constructor
  · intro h
    cases h <;> simp_all
  · exact .exported ho hd

theorem isMisread_exported : o.IsMisread ↔ d.IsMisread := by
  constructor
  · intro h
    cases h with
    | comment hc => simp [ho, NodeKind.htmlComment] at hc
    | default h => cases hd.symm.trans h.declaration
    | exported _ hd' h => simp_all
  · exact .exported ho hd

theorem presents_exported : o.Presents m ↔ d.Presents m := by
  constructor
  · intro h
    cases h with
    | bare h => cases h <;> simp_all [NodeKind.isNamespace]
    | exported _ hd' h => simp_all
    | default h => cases hd.symm.trans h.declaration
  · exact .exported ho hd

end Exports

section ExportsNoDeclaration

variable (ho : o.kind = .exportStatement) (hd : o.child? .declaration = none)
include ho hd

theorem isErased_iff_ofTypes : o.IsErased ↔ o.hasToken "type" = true := by
  constructor
  · intro h
    cases h <;> simp_all
  · exact .ofTypes ho hd

theorem presents_iff_exportsDefault : o.Presents m ↔ o.ExportsDefault m := by
  constructor
  · intro h
    cases h with
    | bare h => cases h <;> simp_all [NodeKind.isNamespace]
    | exported _ hd' _ => cases hd.symm.trans hd'
    | default h => exact h
  · exact .default

theorem isMisread_iff_exportsDefault : o.IsMisread ↔ ∃ m, o.ExportsDefault m := by
  constructor
  · intro h
    cases h with
    | comment hc => simp [ho, NodeKind.htmlComment] at hc
    | default h => exact ⟨_, h⟩
    | exported _ hd' _ => cases hd.symm.trans hd'
  · rintro ⟨_, h⟩
    exact .default h

end ExportsNoDeclaration

theorem Presents.bare_of_kind (h : o.Presents m) (ho : o.kind ≠ .exportStatement) : o.Bare m := by
  cases h with
  | bare h => exact h
  | exported hx _ _ => exact absurd hx ho
  | default h => exact absurd h.kind ho

theorem IsMisread.comment_of_kind (h : o.IsMisread) (ho : o.kind ≠ .exportStatement) :
    o.kind = .htmlComment := by
  cases h with
  | comment hc => exact hc
  | default h => exact absurd h.kind ho
  | exported hx _ _ => exact absurd hx ho

theorem Bare.kind (h : o.Bare m) : o.kind.isNamespace = true ∨ o.kind = .expressionStatement := by
  cases h with
  | itself hm => exact Or.inl hm
  | statement ho _ => exact Or.inr ho

theorem Bare.eq {m' : Node} (h : o.Bare m) (h' : o.Bare m') : m' = m := by
  cases h <;> cases h' <;> simp_all [NodeKind.isNamespace]

theorem Bare.isValueStatement_eq (h : o.Bare m) :
    o.isValueStatement = (m.child? .body).any declaresValues := by
  have hm {m : Node} (hk : m.kind.isNamespace = true) :
      m.isValueStatement = (m.child? .body).any declaresValues := by
    simp only [NodeKind.isNamespace, Bool.or_eq_true, decide_eq_true_eq] at hk
    rw [Node.isValueStatement_eq]
    rcases hk with hk | hk <;> rw [hk]
  cases h with
  | itself hk => exact hm hk
  | statement ho hf =>
    rw [Node.isValueStatement_eq, ho, hf]
    exact hm (by rw [kind_of_firstNamed? hf]; rfl)

/-- Of all other statements those make values that are not erased. -/
theorem isValueStatement_iff_not_isErased (ho : o.kind ≠ .exportStatement)
    (hp : ∀ m, ¬o.Presents m) : o.isValueStatement = true ↔ ¬o.IsErased := by
  rw [Node.isValueStatement_eq]
  split
  case h_1 hk => simpa using .interface hk
  case h_2 hk => simpa using .alias hk
  case h_3 hk => simpa using .ambient hk
  case h_4 hk =>
    rw [Bool.not_eq_true', ← Bool.not_eq_true]
    exact not_congr ⟨.constEnum hk, fun h => by cases h <;> simp_all⟩
  case h_5 hk | h_6 hk => exact absurd (.bare (.itself (by rw [hk]; rfl))) (hp o)
  case h_7 hk =>
    have hf : o.firstNamed? .internalModule = none :=
      Option.eq_none_iff_forall_ne_some.2 fun m hm => hp m (.bare (.statement hk hm))
    rw [hf]
    simp only [Option.map_none, Option.getD_none, true_iff]
    intro h
    cases h <;> simp_all
  case h_8 hk => exact absurd hk ho
  case h_9 =>
    simp only [true_iff]
    intro h
    cases h <;> simp_all

/-- A statement makes a value if it is neither erased nor a namespace, if it is misread, or if it is a
namespace that declares values. -/
theorem isValueStatement_iff (o : Node) : o.isValueStatement = true ↔
    (¬o.IsErased ∧ ∀ m, ¬o.Presents m) ∨ o.IsMisread ∨
      ∃ m, o.Presents m ∧ (m.child? .body).any declaresValues = true := by
  induction o using Node.induction with
  | step o ih =>
    by_cases ho : o.kind = .exportStatement
    · cases hd : o.child? .declaration with
      | some d =>
        simp only [isValueStatement_exported ho hd, isErased_exported ho hd,
          isMisread_exported ho hd, presents_exported ho hd]
        exact ih d (mem_of_child? hd)
      | none =>
        have hv : o.isValueStatement = !o.hasToken "type" := by
          rw [Node.isValueStatement_eq]
          simp [ho, hd]
        simp only [isErased_iff_ofTypes ho hd, presents_iff_exportsDefault ho hd,
          isMisread_iff_exportsDefault ho hd, hv]
        by_cases hm : ∃ m, o.ExportsDefault m
        · obtain ⟨m, hm⟩ := hm
          simp [hm.notOfTypes, show ∃ m, o.ExportsDefault m from ⟨m, hm⟩]
        · simp [not_exists.1 hm]
    · by_cases hp : ∃ m, o.Presents m
      · obtain ⟨m, hm⟩ := hp
        have hb := hm.bare_of_kind ho
        rw [hb.isValueStatement_eq]
        constructor
        · exact fun h => Or.inr (Or.inr ⟨m, hm, h⟩)
        · rintro (⟨-, hn⟩ | hc | ⟨m', hm', h⟩)
          · exact absurd hm (hn m)
          · have hk := hb.kind
            rw [hc.comment_of_kind ho] at hk
            simp [NodeKind.isNamespace, NodeKind.htmlComment] at hk
          · rwa [hb.eq (hm'.bare_of_kind ho)] at h
      · have hn := not_exists.1 hp
        rw [isValueStatement_iff_not_isErased ho hn]
        constructor
        · exact fun h => Or.inl ⟨h, hn⟩
        · rintro (⟨h, -⟩ | hc | ⟨m, hm, -⟩)
          · exact h
          · intro h
            have hk := hc.comment_of_kind ho
            cases h <;> simp_all [NodeKind.htmlComment]
          · exact absurd hm (hn m)

theorem Presents.sizeOf_le (h : o.Presents m) : sizeOf m ≤ sizeOf o := by
  induction h with
  | bare h =>
    cases h with
    | itself _ => exact Nat.le_refl _
    | statement _ hm => exact Nat.le_of_lt (sizeOf_lt_of_mem_children (mem_of_firstNamed? hm))
  | exported _ hd _ ih =>
    exact Nat.le_trans ih (Nat.le_of_lt (sizeOf_lt_of_mem_children (mem_of_child? hd)))
  | default h => exact Nat.le_of_lt (sizeOf_lt_of_mem_children (mem_of_child? h.value))

theorem bodyDeclaresValues_iff (m : Node) : (m.child? .body).any declaresValues = true ↔
    ∃ b, m.child? .body = some b ∧ ∃ o ∈ b.namedChildren, o.isValueStatement = true := by
  simp only [Option.any_eq_true, declaresValues_eq_any, List.any_eq_true]

theorem reaches_of_bodyDeclaresValues (m : Node)
    (h : (m.child? .body).any declaresValues = true) :
    m.Reaches fun o => o.IsRuntime ∨ o.IsMisread := by
  obtain ⟨b, hb, o, ho, hv⟩ := (bodyDeclaresValues_iff m).1 h
  rcases (isValueStatement_iff o).1 hv with ⟨he, hp⟩ | hm | ⟨m', hm', h⟩
  · by_cases hc : o.kind = .htmlComment
    · exact .here hb ho (Or.inr (.comment hc))
    · exact .here hb ho (Or.inl ⟨hc, he, hp⟩)
  · exact .here hb ho (Or.inr hm)
  · have hlt : sizeOf m' < sizeOf m := by
      have hbm := sizeOf_lt_of_mem_children (mem_of_child? hb)
      have hob := sizeOf_lt_of_mem_children (mem_of_mem_namedChildren ho)
      have hmo := hm'.sizeOf_le
      omega
    exact .nested hb ho hm' (reaches_of_bodyDeclaresValues m' h)
termination_by sizeOf m

/-- A namespace declares values if, at some depth, there is a statement of which something is left at
run time, or one that is misread. -/
theorem bodyDeclaresValues_iff_reaches (m : Node) :
    (m.child? .body).any declaresValues = true ↔ m.Reaches IsRuntime ∨ m.Reaches IsMisread := by
  rw [← reaches_or]
  refine ⟨reaches_of_bodyDeclaresValues m, fun h => ?_⟩
  induction h with
  | here hb ho h =>
    refine (bodyDeclaresValues_iff _).2 ⟨_, hb, _, ho, (isValueStatement_iff _).2 ?_⟩
    exact h.imp (fun hr => ⟨hr.notErased, hr.noNamespace⟩) Or.inl
  | nested hb ho hm _ ih =>
    exact (bodyDeclaresValues_iff _).2
      ⟨_, hb, _, ho, (isValueStatement_iff _).2 (Or.inr (Or.inr ⟨_, hm, ih⟩))⟩

/-! Statements that are added to bodies of namespaces. -/

/-- The kind above the children of a node, none if they are the statements of a namespace. -/
def kindAround (outer : Option NodeKind) (n : Node) : Option NodeKind :=
  if outer.any NodeKind.isNamespace && n.info.field = some .body then none else some n.kind

/-- Nodes with `A` are added among some nodes and below them, all of them as statements in the bodies
of namespaces. The kind above the nodes is given, none right in such a body. -/
inductive Grows (A : Node → Prop) : Option NodeKind → List Node → List Node → Prop
  | nil {outer : Option NodeKind} : Grows A outer [] []
  | kept {outer : Option NodeKind} {n m : Node} {ns ms : List Node} (kind : n.kind = m.kind)
      (field : n.info.field = m.info.field)
      (inside : Grows A (n.kindAround outer) n.children m.children) (rest : Grows A outer ns ms) :
      Grows A outer (n :: ns) (m :: ms)
  | added {m : Node} {ns ms : List Node} (added : A m) (rest : Grows A none ns ms) :
      Grows A none ns (m :: ms)

structure GrowsTo (A : Node → Prop) (n m : Node) : Prop where
  kind : n.kind = m.kind
  field : n.info.field = m.info.field
  inside : Grows A (some n.kind) n.children m.children

/-- The second truth value is the first one, except that it may have become true if `c` holds. -/
def Gains (c : Prop) (x y : Bool) : Prop := (x = true → y = true) ∧ (y = true → x = true ∨ c)

namespace Gains

variable {α β : Type} {c : Prop} {R : α → β → Prop} {p : Option α} {q : Option β}

theorem refl (x : Bool) : Gains c x x := ⟨id, Or.inl⟩

theorem or {x y x' y' : Bool} (h : Gains c x y) (h' : Gains c x' y') :
    Gains c (x || x') (y || y') := by
  simp only [Gains, Bool.or_eq_true] at *
  tauto

theorem and_left {x y : Bool} (h : Gains c x y) (z : Bool) : Gains c (z && x) (z && y) := by
  cases z with
  | false => exact refl false
  | true => exact h

theorem any_of_rel {f : α → Bool} {g : β → Bool} (h : Option.Rel R p q)
    (hfg : ∀ a, p = some a → ∀ b, R a b → Gains c (f a) (g b)) : Gains c (p.any f) (q.any g) := by
  rcases rel_cases h with ⟨rfl, rfl⟩ | ⟨a, b, rfl, rfl, hab⟩
  · exact refl _
  · exact hfg a rfl b hab

theorem getD_of_rel {f : α → Bool} {g : β → Bool} (h : Option.Rel R p q)
    (hfg : ∀ a, p = some a → ∀ b, R a b → Gains c (f a) (g b)) (d : Bool) :
    Gains c ((p.map f).getD d) ((q.map g).getD d) := by
  rcases rel_cases h with ⟨rfl, rfl⟩ | ⟨a, b, rfl, rfl, hab⟩
  · exact refl _
  · exact hfg a rfl b hab

end Gains

section Growth

variable {A : Node → Prop} {n : Node} {ns ms : List Node}

theorem Grows.forall₂ {k : NodeKind} (h : Grows A (some k) ns ms) :
    List.Forall₂ (fun n m => n.kind = m.kind ∧ n.info.field = m.info.field ∧
      Grows A (n.kindAround (some k)) n.children m.children) ns ms := by
  generalize hk : some k = outer at h
  induction h with
  | nil => exact .nil
  | kept kind field inside _ _ ih =>
    subst hk
    exact .cons ⟨kind, field, inside⟩ (ih rfl)
  | added _ _ => cases hk

namespace GrowsTo

theorem children (h : GrowsTo A n m) (hk : n.kind.isNamespace = false) :
    List.Forall₂ (GrowsTo A) n.children m.children :=
  h.inside.forall₂.imp fun c d ⟨kind, field, inside⟩ =>
    ⟨kind, field, by rwa [kindAround, Option.any_some, hk] at inside⟩

theorem child? (h : GrowsTo A n m) (hk : n.kind.isNamespace = false) (f : Field) :
    Option.Rel (GrowsTo A) (n.child? f) (m.child? f) :=
  find?_rel_of_forall₂ (h.children hk) fun c d hcd => by rw [hcd.field]

theorem firstNamed? (h : GrowsTo A n m) (hk : n.kind.isNamespace = false) (k : NodeKind) :
    Option.Rel (GrowsTo A) (n.firstNamed? k) (m.firstNamed? k) :=
  find?_rel_of_forall₂ (filter_rel_of_forall₂ (h.children hk) fun c d hcd => by
    rw [isNamed, isNamed, hcd.kind]) fun c d hcd => by rw [hcd.kind]

theorem hasToken (h : GrowsTo A n m) (hk : n.kind.isNamespace = false) (text : String) :
    n.hasToken text = m.hasToken text :=
  any_eq_of_forall₂ (h.children hk) fun c _ d hcd => by rw [hcd.kind]

theorem name (h : GrowsTo A n m) : Option.Rel (fun c d => c.kind = d.kind)
    (n.child? .name) (m.child? .name) :=
  rel_mono (find?_rel_of_forall₂ h.inside.forall₂ fun c d hcd => by rw [hcd.2.1])
    fun _ _ _ hcd => hcd.1

theorem body (h : GrowsTo A n m) (hk : n.kind.isNamespace = true) :
    Option.Rel (fun c d => Grows A none c.children d.children) (n.child? .body) (m.child? .body) :=
  rel_mono (find?_rel_of_forall₂ h.inside.forall₂ fun c d hcd => by rw [hcd.2.1])
    fun c hc d hcd => by
      have inside := hcd.2.2
      rwa [kindAround, Option.any_some, hk, field_of_child? hc] at inside

end GrowsTo

theorem Grows.gains_anyValueStatement {c : Prop}
    (hA : ∀ a : Node, A a → a.isValueStatement = true → c) (h : Grows A none ns ms)
    (hns : ∀ n ∈ ns, ∀ m, GrowsTo A n m → Gains c n.isValueStatement m.isValueStatement) :
    Gains c (anyValueStatement ns) (anyValueStatement ms) := by
  generalize hk : none = outer at h
  induction h with
  | nil => exact .refl _
  | @kept outer n m ns ms kind field inside _ _ ih =>
    subst hk
    have hn := hns n List.mem_cons_self m ⟨kind, field, inside⟩
    have ih := ih (fun c hc => hns c (List.mem_cons_of_mem n hc)) rfl
    rw [anyValueStatement_cons, anyValueStatement_cons, isNamed, isNamed, kind]
    exact (hn.and_left _).or ih
  | @added m ns ms added _ ih =>
    have ih := ih hns hk
    rw [anyValueStatement_cons]
    simp only [Gains, Bool.or_eq_true, Bool.and_eq_true] at ih ⊢
    exact ⟨fun h => Or.inr (ih.1 h),
      fun h => h.elim (fun hm => Or.inr (hA m added hm.2)) ih.2⟩

/-- Statements that are added can make a value, and take none away. -/
theorem gains_values {c : Prop} (hA : ∀ a : Node, A a → a.isValueStatement = true → c) (n : Node) :
    (∀ m, GrowsTo A n m → Gains c n.isValueStatement m.isValueStatement) ∧
      ∀ m : Node, Grows A none n.children m.children → Gains c n.declaresValues m.declaresValues := by
  induction n using Node.induction with
  | step n ih =>
    refine ⟨fun m h => ?_, fun m h => ?_⟩
    · rw [Node.isValueStatement_eq, Node.isValueStatement_eq, ← h.kind]
      split
      case h_4 hk =>
        rw [h.hasToken (by rw [hk]; rfl)]
        exact .refl _
      case h_5 hk | h_6 hk =>
        exact .any_of_rel (h.body (by rw [hk]; rfl)) fun b hb d => (ih b (mem_of_child? hb)).2 d
      case h_7 hk =>
        exact .getD_of_rel (h.firstNamed? (by rw [hk]; rfl) _)
          (fun c hc d => (ih c (mem_of_firstNamed? hc)).1 d) _
      case h_8 hk =>
        rw [h.hasToken (by rw [hk]; rfl)]
        exact .getD_of_rel (h.child? (by rw [hk]; rfl) _)
          (fun c hc d => (ih c (mem_of_child? hc)).1 d) _
      all_goals exact .refl _
    · rw [declaresValues, declaresValues]
      exact h.gains_anyValueStatement hA fun c hc d => (ih c hc).1 d

/-- Statements that are added to a namespace can make it declare values, but not the contrary. -/
theorem GrowsTo.gains_body {c : Prop} (hA : ∀ a : Node, A a → a.isValueStatement = true → c)
    (h : GrowsTo A n m) (hk : n.kind.isNamespace = true) :
    Gains c ((n.child? .body).any declaresValues) ((m.child? .body).any declaresValues) :=
  .any_of_rel (h.body hk) fun b _ d hbd => (gains_values hA b).2 d hbd

end Growth

/-! Namespaces in the outermost scope. -/

/-- Statement `o` is the namespace `m` in the outermost scope, as the default value or otherwise. -/
inductive RootNamespace : Bool → Node → Node → Prop
  | bare {o m : Node} (h : o.Bare m) : RootNamespace false o m
  | exported {o d m : Node} (ho : o.kind = .exportStatement)
      (hd : o.child? .declaration = some d) (h : d.Bare m) : RootNamespace false o m
  | default {o m : Node} (h : o.ExportsDefault m) : RootNamespace true o m

def HasSimpleName (m : Node) : Prop := ∃ x, m.child? .name = some x ∧ x.kind = .identifier

variable {s : List Char} {e asDefault : Bool} {A : Node → Prop} {o' : Node}

theorem Bare.isNamespace (h : o.Bare m) : m.kind.isNamespace = true := by
  cases h with
  | itself hm => exact hm
  | statement _ hm =>
    rw [kind_of_firstNamed? hm]
    rfl

theorem Bare.declarations_eq (h : o.Bare m) : o.declarations s e = m.namespaceDeclaration s e := by
  cases h with
  | itself hm =>
    simp only [NodeKind.isNamespace, Bool.or_eq_true, decide_eq_true_eq] at hm
    rw [declarations]
    rcases hm with hm | hm <;> rw [hm]
  | statement ho hm =>
    rw [declarations, ho, hm]
    rfl

theorem Bare.grows (h : o.Bare m) (hg : GrowsTo A o o') : ∃ m', o'.Bare m' ∧ GrowsTo A m m' := by
  cases h with
  | itself hm => exact ⟨o', .itself (hg.kind ▸ hm), hg⟩
  | statement ho hm =>
    rcases rel_cases (hg.firstNamed? (by rw [ho]; rfl) .internalModule) with
      ⟨hn, -⟩ | ⟨a, b, ha, hb, hab⟩
    · cases hm.symm.trans hn
    · obtain rfl : m = a := Option.some.inj (hm.symm.trans ha)
      exact ⟨b, .statement (hg.kind ▸ ho) hb, hab⟩

theorem RootNamespace.grows (h : RootNamespace asDefault o m) (hg : GrowsTo A o o') :
    ∃ m', RootNamespace asDefault o' m' ∧ GrowsTo A m m' := by
  cases h with
  | bare h =>
    obtain ⟨m', hm, hg⟩ := h.grows hg
    exact ⟨m', .bare hm, hg⟩
  | exported ho hd h =>
    rcases rel_cases (hg.child? (by rw [ho]; rfl) .declaration) with ⟨hn, -⟩ | ⟨a, b, ha, hb, hab⟩
    · cases hd.symm.trans hn
    · obtain rfl := Option.some.inj (hd.symm.trans ha)
      obtain ⟨m', hm, hg'⟩ := h.grows hab
      exact ⟨m', .exported (hg.kind ▸ ho) hb hm, hg'⟩
  | default h =>
    have hk : o.kind.isNamespace = false := by
      rw [h.kind]
      rfl
    rcases rel_cases (hg.child? hk .declaration) with ⟨-, hn⟩ | ⟨a, b, ha, -, -⟩
    · rcases rel_cases (hg.child? hk .value) with ⟨hv, -⟩ | ⟨a, b, ha, hb, hab⟩
      · cases h.value.symm.trans hv
      · obtain rfl : m = a := Option.some.inj (h.value.symm.trans ha)
        exact ⟨b, .default ⟨hg.kind ▸ h.kind, hn, hb, hab.kind ▸ h.isNamespace,
          hg.hasToken hk "type" ▸ h.notOfTypes⟩, hab⟩
    · cases h.declaration.symm.trans ha

theorem RootNamespace.isNamespace (h : RootNamespace asDefault o m) : m.kind.isNamespace = true := by
  cases h with
  | bare h => exact h.isNamespace
  | exported _ _ h => exact h.isNamespace
  | default h => exact h.isNamespace

theorem RootNamespace.items_eq (h : RootNamespace false o m) :
    ∃ e, o.items s = (m.namespaceDeclaration s e).map .declares := by
  cases h with
  | bare h =>
    refine ⟨false, ?_⟩
    rw [← h.declarations_eq, items]
    split <;> first | rfl | (have hk := h.kind; simp_all [NodeKind.isNamespace])
  | exported ho hd h =>
    refine ⟨!o.hasToken "default", ?_⟩
    rw [← h.declarations_eq, items, ho]
    simp only [exportItems, hd]

theorem ExportsDefault.items_eq (h : o.ExportsDefault m) : o.items s = [] := by
  have hm := h.isNamespace
  simp only [NodeKind.isNamespace, Bool.or_eq_true, decide_eq_true_eq] at hm
  rw [items, h.kind]
  simp only [exportItems, h.declaration, h.value]
  rw [defaultDeclaration]
  rcases hm with hm | hm <;> simp [hm]

def Records (s : List Char) (o m : Node) : Prop :=
  ∃ x e, m.child? .name = some x ∧ o.items s = [.declares (x.declaration s .namespace e)]

theorem RootNamespace.items_cases (h : RootNamespace asDefault o m) (s : List Char) :
    (o.Records s m ∧ asDefault = false ∧ m.HasSimpleName ∧
      (m.child? .body).any declaresValues = true) ∨
    (o.items s = [] ∧ ¬(asDefault = false ∧ m.HasSimpleName ∧
      (m.child? .body).any declaresValues = true)) := by
  cases asDefault with
  | true =>
    cases h with
    | default h => exact Or.inr ⟨h.items_eq, by simp⟩
  | false =>
    obtain ⟨e, he⟩ := h.items_eq (s := s)
    have hn : (m.child? .name).any (·.kind = .identifier) = true ↔ m.HasSimpleName := by
      simp [Option.any_eq_true, HasSimpleName]
    rw [namespaceDeclaration] at he
    split at he
    case isTrue hd =>
      obtain ⟨hs, hb⟩ := Bool.and_eq_true_iff.1 hd
      obtain ⟨x, hx, hk⟩ := hn.1 hs
      refine Or.inl ⟨⟨x, e, hx, ?_⟩, rfl, ⟨x, hx, hk⟩, hb⟩
      simpa [namedDeclaration, hx] using he
    case isFalse hd =>
      refine Or.inr ⟨he, fun hc => hd ?_⟩
      rw [hn.2 hc.2.1, hc.2.2]
      rfl

theorem RootNamespace.records_iff (h : RootNamespace asDefault o m) : o.Records s m ↔
    asDefault = false ∧ m.HasSimpleName ∧ (m.child? .body).any declaresValues = true := by
  rcases h.items_cases s with ⟨hr, hc⟩ | ⟨hi, hc⟩
  · exact iff_of_true hr hc
  · refine iff_of_false (fun ⟨x, e, _, hx⟩ => ?_) hc
    rw [hi] at hx
    cases hx

theorem GrowsTo.hasSimpleName_iff (h : GrowsTo A m o') : m.HasSimpleName ↔ o'.HasSimpleName := by
  rcases rel_cases h.name with ⟨hn, hn'⟩ | ⟨a, b, ha, hb, hab⟩
  · simp [HasSimpleName, hn, hn']
  · simp [HasSimpleName, ha, hb, hab]

/-- A namespace that is recorded still is when it grows, and none becomes recorded by growing, unless
something that is added makes a value. -/
theorem RootNamespace.records_grows {c : Prop} (h : RootNamespace asDefault o m)
    (hA : ∀ a : Node, A a → a.isValueStatement = true → c) (hg : GrowsTo A o o') (s t : List Char) :
    ∃ m', RootNamespace asDefault o' m' ∧ (o.Records s m → o'.Records t m') ∧
      (o'.Records t m' → o.Records s m ∨ c) := by
  obtain ⟨m', hm', hg'⟩ := h.grows hg
  obtain ⟨hvalues, hgain⟩ := hg'.gains_body hA h.isNamespace
  refine ⟨m', hm', ?_⟩
  rw [h.records_iff, hm'.records_iff, hg'.hasSimpleName_iff]
  exact ⟨fun ⟨hd, hs, hv⟩ => ⟨hd, hs, hvalues hv⟩,
    fun ⟨hd, hs, hv⟩ => (hgain hv).imp (fun hv => ⟨hd, hs, hv⟩) id⟩

theorem not_reaches_of_preorder (h : ∀ x ∈ m.preorder, ¬P x) : ¬m.Reaches P := by
  have hpresents {o m : Node} (hm : o.Presents m) (h : ∀ x ∈ o.preorder, ¬P x) :
      ∀ x ∈ m.preorder, ¬P x := by
    induction hm with
    | bare hb =>
      cases hb with
      | itself _ => exact h
      | statement _ hm => exact forall_mem_preorder_child h (mem_of_firstNamed? hm)
    | exported _ hd _ ih => exact ih (forall_mem_preorder_child h (mem_of_child? hd))
    | default hd => exact forall_mem_preorder_child h (mem_of_child? hd.value)
  intro hr
  induction hr with
  | here hb ho hp =>
    have hb := forall_mem_preorder_child h (mem_of_child? hb)
    exact forall_mem_preorder_child hb (mem_of_mem_namedChildren ho) _ (mem_preorder_self _) hp
  | nested hb ho hm _ ih =>
    have hb := forall_mem_preorder_child h (mem_of_child? hb)
    exact ih (hpresents hm (forall_mem_preorder_child hb (mem_of_mem_namedChildren ho)))

/-- In a namespace of HTML comments there is nothing of which something is left at run time. -/
theorem not_reaches_isRuntime (h : ∀ b, m.child? .body = some b → ∀ o ∈ b.namedChildren,
    o.kind = .htmlComment) : ¬m.Reaches IsRuntime := by
  intro hr
  cases hr with
  | here hb ho hp => exact hp.noComment (h _ hb _ ho)
  | nested hb ho hm _ =>
    have hk := h _ hb _ ho
    have hbare := (hm.bare_of_kind (by simp [hk, NodeKind.htmlComment])).kind
    simp [hk, NodeKind.isNamespace, NodeKind.htmlComment] at hbare

private theorem eq_singleton_of_length {α : Type} {xs : List α} {x : α} (hlen : xs.length = 1)
    (hx : xs.head? = some x) : xs = [x] := by
  obtain ⟨y, rfl⟩ := List.length_eq_one_iff.1 hlen
  rw [Option.some.inj hx]

end Syntax.Node

open Syntax.Node

namespace Program

/-- A namespace in the outermost scope is recorded if, and only if, it has a single name and something
is left of it at run time. This holds exactly if it is not the default export, or must not be recorded
anyway, and if nothing in it is misread, or it must be recorded anyway. Statements that are added at
any depth leave it recorded, and ambient declarations that are added make no difference. -/
theorem records_namespace_iff {s : List Char} {root o m : Node} {before after : List Node}
    {asDefault : Bool} (he : root.hasError = false) (hr : root.namedChildren = before ++ o :: after)
    (ho : RootNamespace asDefault o m) :
    ofTree s root = .ok ⟨before.flatMap (Node.items s) ++ o.items s ++
      after.flatMap (Node.items s), root.span s⟩ ∧
    (o.items s = [] ∨ o.Records s m) ∧
    ((o.Records s m ↔ m.HasSimpleName ∧ m.Reaches IsRuntime) ↔
      if asDefault = true then ¬(m.HasSimpleName ∧ m.Reaches IsRuntime)
      else m.HasSimpleName → m.Reaches IsMisread → m.Reaches IsRuntime) ∧
    (∀ t o', GrowsTo (fun _ => True) o o' →
      ∃ m', RootNamespace asDefault o' m' ∧ (o.Records s m → o'.Records t m')) ∧
    ∀ t o', GrowsTo (·.kind = .ambientDeclaration) o o' →
      ∃ m', RootNamespace asDefault o' m' ∧ (o.Records s m ↔ o'.Records t m') := by
  refine ⟨?_, ?_, ?_, fun t o' hg => ?_, fun t o' hg => ?_⟩
  · rw [ofTree_of_errorFree he, hr]
    simp only [List.flatMap_append, List.flatMap_cons, List.append_assoc]
  · exact (ho.items_cases s).elim (fun h => Or.inr h.1) fun h => Or.inl h.1
  · rw [ho.records_iff, bodyDeclaresValues_iff_reaches]
    cases asDefault with
    | true => simp
    | false =>
      simp only [Bool.false_eq_true, if_false, true_and]
      tauto
  · obtain ⟨m', hm', hr, -⟩ := ho.records_grows (c := True) (fun _ _ _ => trivial) hg s t
    exact ⟨m', hm', hr⟩
  · obtain ⟨m', hm', hr, hr'⟩ := ho.records_grows (c := False) (fun a ha hv => by
      rw [isValueStatement_eq, ha] at hv
      cases hv) hg s t
    exact ⟨m', hm', hr, fun h => (hr' h).resolve_right id⟩

/-- A statement two namespaces deep. -/
theorem records_namespace_iff_nested :
    let text := "module N\x7bmodule M\x7bf\x7d\x7d".toList
    ∃ root o m, tree? text = some root ∧ root.hasError = false ∧ root.namedChildren = [o] ∧
      RootNamespace false o m ∧ o.Records text m ∧ m.HasSimpleName ∧ m.Reaches IsRuntime := by
  intro text
  have hd : ((tree? text).bind fun root => root.namedChildren.head?.map fun o =>
      (root.hasError, root.namedChildren.length, o.kind.isNamespace, (o.items text).isEmpty,
        o.preorder.all fun n => n.kind ≠ .htmlComment && n.kind ≠ .exportStatement)) =
      some (false, 1, true, false, true) := by
    decide +kernel
  obtain ⟨root, hr, hd⟩ := Option.bind_eq_some_iff.1 hd
  obtain ⟨o, ho, hd⟩ := Option.map_eq_some_iff.1 hd
  simp only [Prod.mk.injEq, List.all_eq_true, Bool.and_eq_true, decide_eq_true_eq] at hd
  obtain ⟨he, hlen, hk, hi, hn⟩ := hd
  have hone : root.namedChildren = [] ++ o :: [] := eq_singleton_of_length hlen ho
  have hroot : RootNamespace false o o := .bare (.itself hk)
  have hmisread : ¬o.Reaches IsMisread := not_reaches_of_preorder fun x hx hmis =>
    (hn x hx).1 (hmis.comment_of_kind (hn x hx).2)
  obtain ⟨-, hrec, hiff, -, -⟩ :=
    records_namespace_iff (s := text) he hone hroot
  have hrec : o.Records text o := hrec.resolve_left (by simpa using hi)
  have hcontent := (hiff.2 (by simp [hmisread])).1 hrec
  exact ⟨root, o, o, hr, he, hone, hroot, hrec, hcontent⟩

/-- An HTML comment is all there is in a namespace that is recorded. -/
theorem not_records_namespace_iff :
    let text := "namespace N\x7b<!--\n\x7d".toList
    ∃ root o m, tree? text = some root ∧ root.hasError = false ∧ root.namedChildren = [o] ∧
      RootNamespace false o m ∧ ¬(o.Records text m ↔ m.HasSimpleName ∧ m.Reaches IsRuntime) := by
  intro text
  have hd : ((tree? text).bind fun root => root.namedChildren.head?.bind fun o =>
      (o.firstNamed? .internalModule).map fun m =>
        (root.hasError, root.namedChildren.length, o.kind, (o.items text).isEmpty,
          (m.child? .body).all fun b => b.namedChildren.all fun n => n.kind = .htmlComment)) =
      some (false, 1, .expressionStatement, false, true) := by
    decide +kernel
  obtain ⟨root, hr, hd⟩ := Option.bind_eq_some_iff.1 hd
  obtain ⟨o, ho, hd⟩ := Option.bind_eq_some_iff.1 hd
  obtain ⟨m, hm, hd⟩ := Option.map_eq_some_iff.1 hd
  simp only [Prod.mk.injEq, Option.all_eq_true, List.all_eq_true, decide_eq_true_eq] at hd
  obtain ⟨he, hlen, hk, hi, hn⟩ := hd
  have hroot : RootNamespace false o m := .bare (.statement hk hm)
  have hrec : o.Records text m :=
    ((hroot.items_cases text).resolve_right fun h => by simp [h.1] at hi).1
  refine ⟨root, o, m, hr, he, eq_singleton_of_length hlen ho, hroot, fun h => ?_⟩
  exact not_reaches_isRuntime hn (h.1 hrec).2

end Program
end TypeScriptRepl
