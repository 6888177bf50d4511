import TypeScriptRepl.Proofs.Program.Correspondence
import TypeScriptRepl.Proofs.Program.FirstError

/-! Only the outermost scope counts: what belongs to an inner one can be replaced. -/
namespace TypeScriptRepl

open Grammar Syntax Text

namespace Text

/-- Texts that are the same but for the bytes in some ranges, both counted from byte `k`. -/
def SameOutside (k : Nat) : List (Nat × Nat) → List Char → List Char → Prop
  | [], s, t => s = t
  | (a, b) :: rs, s, t => k ≤ a ∧ a ≤ b ∧
    ∃ kept ∈ takeBytes? s (a - k), takeBytes? t (a - k) = some kept ∧
      ∃ s' ∈ dropBytes? s (b - k), ∃ t' ∈ dropBytes? t (b - k), SameOutside b rs s' t'

instance decidableSameOutside : (k : Nat) → (rs : List (Nat × Nat)) → (s t : List Char) →
    Decidable (SameOutside k rs s t)
  | _, [], s, t => inferInstanceAs (Decidable (s = t))
  | k, (a, b) :: rs, s, t =>
    have (s' t' : List Char) := decidableSameOutside b rs s' t'
    inferInstanceAs (Decidable (k ≤ a ∧ a ≤ b ∧
      ∃ kept ∈ takeBytes? s (a - k), takeBytes? t (a - k) = some kept ∧
        ∃ s' ∈ dropBytes? s (b - k), ∃ t' ∈ dropBytes? t (b - k), SameOutside b rs s' t'))

def AgreeOutside (s t : List Char) (rs : List (Nat × Nat)) (a b : Nat) : Prop :=
  ∀ c d, a ≤ c → c ≤ d → d ≤ b → (∀ r ∈ rs, d ≤ r.1 ∨ r.2 ≤ c) → slice? s c d = slice? t c d

variable {s t : List Char} {rs : List (Nat × Nat)}

theorem SameOutside.slice?_eq {k c d : Nat} (h : SameOutside k rs s t) (hk : k ≤ c) (hcd : c ≤ d)
    (ho : ∀ r ∈ rs, d ≤ r.1 ∨ r.2 ≤ c) : slice? s (c - k) (d - k) = slice? t (c - k) (d - k) := by
  induction rs generalizing k s t with
  | nil => rw [show s = t from h]
  | cons r rs ih =>
    obtain ⟨hka, hab, kept, hs, ht, s', hs', t', ht', h⟩ := h
    rcases ho r List.mem_cons_self with hd | hc
    · obtain ⟨after, rfl, hl⟩ := takeBytes?_eq_some hs
      obtain ⟨after', rfl, -⟩ := takeBytes?_eq_some ht
      rw [slice?_append_left (by omega), slice?_append_left (by omega)]
    · obtain ⟨before, rfl, hl⟩ := dropBytes?_eq_some hs'
      obtain ⟨before', rfl, hl'⟩ := dropBytes?_eq_some ht'
      have hrest := ih h hc fun q hq => ho q (List.mem_cons_of_mem r hq)
      have hrow : k ≤ r.2 := hka.trans hab
      rw [slice?_append_right (by omega) (by omega), slice?_append_right (by omega) (by omega), hl,
        hl', Nat.sub_sub, Nat.sub_sub, Nat.add_sub_cancel' hrow]
      exact hrest

theorem SameOutside.agreeOutside (h : SameOutside 0 rs s t) (a b : Nat) :
    AgreeOutside s t rs a b :=
  fun _ _ _ hcd _ ho => h.slice?_eq (Nat.zero_le _) hcd ho

end Text

def Span.bytes (σ : Span) : Span := { σ with line := 0, column := 0 }

namespace Syntax

/-- Whether a child in a role is hidden from the scope around: bodies, parameters and types of
functions and classes, initialisers and types of declarators, defaults, keys, bodies of namespaces. -/
def NodeKind.hides (k : NodeKind) (role : Option Field) : Bool :=
  k.seenRoles?.any fun fs => !role.any (· ∈ fs)

/-- Whether the scan takes notice of statements like this one in the outermost scope. -/
def Node.isListed (n : Node) : Bool :=
  match n.kind with
  | .importStatement | .importAlias | .exportStatement | .functionDeclaration
  | .generatorFunctionDeclaration | .functionSignature | .classDeclaration
  | .abstractClassDeclaration | .enumDeclaration | .internalModule | .module
  | .lexicalDeclaration | .variableDeclaration => true
  | .expressionStatement => (n.firstNamed? .internalModule).isSome
  | _ => false

/-- Where nodes stand: right below the root, right in the body of a namespace, or below another node
of some kind. -/
inductive Place where
  | outermost
  | namespaceBody (kind : NodeKind)
  | below (kind : NodeKind)

namespace Place

def outer : Place → Option NodeKind
  | outermost => none
  | namespaceBody k => some k
  | below k => some k

def inside (p : Place) (n : Node) : Place :=
  if p.outer.any NodeKind.isNamespace && n.info.field = some .body then namespaceBody n.kind
  else below n.kind

/-- Which nodes may stand in for each other: statements of which the scan takes no notice, and
children in a role that is hidden, in a namespace only bodies that agree on declaring values. -/
def Allows : Place → Node → Node → Prop
  | outermost, n, m => n.isListed = false ∧ m.isListed = false
  | namespaceBody _, _, _ => False
  | below k, n, m => k.hides n.info.field = true ∧ m.info.field = n.info.field ∧
    (k.isNamespace = true → n.info.field = some .body ∧ n.declaresValues = m.declaresValues)

instance decidableAllows : (p : Place) → (n m : Node) → Decidable (p.Allows n m)
  | outermost, n, m => inferInstanceAs (Decidable (n.isListed = false ∧ m.isListed = false))
  | namespaceBody _, _, _ => inferInstanceAs (Decidable False)
  | below k, n, m => inferInstanceAs (Decidable (k.hides n.info.field = true ∧
    m.info.field = n.info.field ∧
    (k.isNamespace = true → n.info.field = some .body ∧ n.declaresValues = m.declaresValues)))

@[simp] theorem outer_inside (p : Place) (n : Node) : (p.inside n).outer = some n.kind := by
  rw [inside]
  split <;> rfl

/-- What may be replaced below a node is hidden from the scope around it. -/
theorem Allows.hidden {p : Place} {n c d : Node} (h : (p.inside n).Allows c d) :
    n.kind.hides c.info.field = true ∧ d.info.field = c.info.field ∧
      (n.kind.isNamespace = true → c.declaresValues = d.declaresValues) := by
  rw [inside] at h
  split at h
  · exact h.elim
  · exact ⟨h.1, h.2.1, fun hk => (h.2.2 hk).2⟩

/-- The statements of a namespace may not be replaced one by one. -/
theorem not_allows_inside_inside {p : Place} {n b c d : Node} (hk : n.kind.isNamespace = true)
    (hb : b.info.field = some .body) : ¬((p.inside n).inside b).Allows c d := by
  rw [inside, outer_inside, Option.any_some, hk, hb]
  exact id

end Place

namespace Node

structure Like (n m : Node) : Prop where
  kind : n.kind = m.kind
  field : n.info.field = m.info.field
  bounds : n.bounds = m.bounds

/-- Parts of some nodes are replaced by others, in ranges that are listed. The rest keeps its kinds,
roles and bytes, and what is read as a name has no replaced part. -/
inductive Replaces : Place → List (Nat × Nat) → List Node → List Node → Prop
  | nil {p : Place} : Replaces p [] [] []
  | kept {p : Place} {rs rs' : List (Nat × Nat)} {n m : Node} {ns ms : List Node} (like : n.Like m)
      (read : isRead p.outer n.info = true → rs = [])
      (inside : Replaces (p.inside n) rs n.children m.children) (rest : Replaces p rs' ns ms) :
      Replaces p (rs ++ rs') (n :: ns) (m :: ms)
  | replaced {p : Place} {rs : List (Nat × Nat)} {n m : Node} {ns ms : List Node}
      (allowed : p.Allows n m) (bounds : n.bounds = m.bounds) (rest : Replaces p rs ns ms) :
      Replaces p (n.bounds :: rs) (n :: ns) (m :: ms)

/-- A node of one text that is kept in another one, where parts below it may be replaced. -/
structure KeptAt (s t : List Char) (p : Place) (n m : Node) : Prop where
  like : n.Like m
  ordered : n.IsOrdered
  inside : ∃ rs, (isRead p.outer n.info = true → rs = []) ∧
    Replaces (p.inside n) rs n.children m.children ∧
    AgreeOutside s t rs n.range.start n.range.stop

variable {s t : List Char} {p : Place} {rs : List (Nat × Nat)} {n m : Node} {ns ms : List Node}

/-- What is replaced lies within the nodes. -/
theorem Replaces.within (h : Replaces p rs ns ms) : ∀ {a b : Nat}, InOrder a b (ns.map bounds) →
    (∀ n ∈ ns, n.IsOrdered) → ∀ r ∈ rs, a ≤ r.1 ∧ r.2 ≤ b := by
  induction h with
  | nil => exact fun _ _ _ hr => absurd hr List.not_mem_nil
  | @kept p rs rs' n m ns ms like read inside rest ih ih' =>
    intro a b ho hns r hr
    have hn := hns n List.mem_cons_self
    obtain ⟨hstart, -, hstop⟩ := ho
    rcases List.mem_append.1 hr with hr | hr
    · obtain ⟨hx, hy⟩ := ih hn.order (fun c hc => hn.of_mem_children hc) r hr
      exact ⟨hstart.trans hx, hy.trans hstop.le⟩
    · obtain ⟨hx, hy⟩ := ih' hstop (fun m hm => hns m (List.mem_cons_of_mem n hm)) r hr
      exact ⟨(hstart.trans hn.order.le).trans hx, hy⟩
  | @replaced p rs n m ns ms allowed bounds rest ih =>
    intro a b ho hns r hr
    obtain ⟨hstart, hle, hstop⟩ := ho
    rcases List.mem_cons.1 hr with rfl | hr
    · exact ⟨hstart, hstop.le⟩
    · obtain ⟨hx, hy⟩ := ih hstop (fun m hm => hns m (List.mem_cons_of_mem n hm)) r hr
      exact ⟨(hstart.trans hle).trans hx, hy⟩

/-- Nodes with replaced parts are replaced or kept one by one. -/
theorem Replaces.forall₂ (h : Replaces p rs ns ms) : ∀ {a b : Nat}, InOrder a b (ns.map bounds) →
    (∀ n ∈ ns, n.IsOrdered) → AgreeOutside s t rs a b →
    List.Forall₂ (fun n m => p.Allows n m ∨ KeptAt s t p n m) ns ms := by
  induction h with
  | nil => exact fun _ _ _ => .nil
  | @kept p rs rs' n m ns ms like read inside rest ih ih' =>
    intro a b ho hns hst
    have hn := hns n List.mem_cons_self
    have hns : ∀ m ∈ ns, m.IsOrdered := fun m hm => hns m (List.mem_cons_of_mem n hm)
    obtain ⟨hstart, hle, hstop⟩ := ho
    have hrs := inside.within hn.order fun c hc => hn.of_mem_children hc
    have hrs' := rest.within hstop hns
    -- the slices of the node lie before what is replaced in the others, and theirs after it
    refine .cons (Or.inr ⟨like, hn, rs, read, inside, fun c d hc hcd hd hout => ?_⟩)
      (ih' hstop hns fun c d hc hcd hd hout => ?_)
    · refine hst c d (hstart.trans hc) hcd (hd.trans hstop.le) fun r hr => ?_
      rcases List.mem_append.1 hr with hr | hr
      · exact hout r hr
      · exact Or.inl (hd.trans (hrs' r hr).1)
    · refine hst c d ((hstart.trans hle).trans hc) hcd hd fun r hr => ?_
      rcases List.mem_append.1 hr with hr | hr
      · exact Or.inr ((hrs r hr).2.trans hc)
      · exact hout r hr
  | @replaced p rs n m ns ms allowed bounds rest ih =>
    intro a b ho hns hst
    obtain ⟨hstart, hle, hstop⟩ := ho
    refine .cons (Or.inl allowed) (ih hstop (fun m hm => hns m (List.mem_cons_of_mem n hm))
      fun c d hc hcd hd hout => hst c d ((hstart.trans hle).trans hc) hcd hd fun r hr => ?_)
    rcases List.mem_cons.1 hr with rfl | hr
    · exact Or.inr hc
    · exact hout r hr

namespace KeptAt

variable (h : KeptAt s t p n m)
include h

theorem children : List.Forall₂
    (fun c d => (p.inside n).Allows c d ∨ KeptAt s t (p.inside n) c d) n.children m.children := by
  obtain ⟨rs, -, hr, hst⟩ := h.inside
  exact hr.forall₂ h.ordered.order (fun c hc => h.ordered.of_mem_children hc) hst

theorem text_eq (hr : isRead p.outer n.info = true) : n.text s = m.text t := by
  obtain ⟨rs, hrs, -, hst⟩ := h.inside
  obtain rfl := hrs hr
  have hslice := hst _ _ le_rfl h.ordered.order.le le_rfl fun r hr => absurd hr List.not_mem_nil
  obtain ⟨hstart, hstop⟩ := Prod.mk.inj h.like.bounds
  rw [text, text, hslice, hstart, hstop]

/-- The child in a role is kept, unless the role is hidden. -/
theorem child? (f : Field) : Option.Rel (fun c d => c.info.field = some f ∧
    ((p.inside n).Allows c d ∨ KeptAt s t (p.inside n) c d)) (n.child? f) (m.child? f) :=
  rel_mono (find?_rel_of_forall₂ h.children fun c d hcd => by
    rw [hcd.elim (fun ha => ha.hidden.2.1.symm) fun hk => hk.like.field])
    fun c hc d hcd => ⟨field_of_child? hc, hcd⟩

end KeptAt

/-- Nodes that are kept correspond in all but lines and columns. -/
theorem corresponds_of_keptAt :
    Corresponds s t Span.bytes fun o n m => ∃ p : Place, p.outer = o ∧ KeptAt s t p n m where
  kind := fun ⟨_, _, h⟩ => h.like.kind
  field := fun ⟨_, _, h⟩ => h.like.field
  span := fun ⟨_, _, h⟩ => by
    obtain ⟨hstart, hstop⟩ := Prod.mk.inj h.like.bounds
    simp only [span, Span.bytes, hstart, hstop]
  text := fun ⟨p, hp, h⟩ hr => h.text_eq (hp ▸ hr)
  children := fun ⟨p, _, h⟩ hk => h.children.imp fun c d hcd => by
    refine hcd.elim (fun ha => ?_) fun hkept => ⟨_, p.outer_inside _, hkept⟩
    have hh := ha.hidden.1
    simp [NodeKind.hides, hk] at hh
  seen := fun {o n m fs f} ⟨p, _, h⟩ hk hf => rel_mono (h.child? f) fun c _ d ⟨hc, hcd⟩ => by
    refine hcd.elim (fun ha => ?_) fun hkept => ⟨_, p.outer_inside _, hkept⟩
    have hh := ha.hidden.1
    simp [NodeKind.hides, hk, hc, hf] at hh
  body := fun {o n m} ⟨p, _, h⟩ hk => rel_mono (h.child? .body) fun c _ d ⟨hc, hcd⟩ => by
    refine hcd.imp (fun ha => ha.hidden.2.2 hk) fun hkept => hkept.children.imp fun x y hxy => ?_
    exact hxy.elim (fun ha => absurd ha (Place.not_allows_inside_inside hk hc))
      fun hx => ⟨_, Place.outer_inside _ _, hx⟩

theorem items_of_not_isListed (h : n.isListed = false) : n.items s = [] := by
  rw [isListed] at h
  rw [items, declarations]
  split at h <;> simp_all

/-- Comments and tokens have no items. -/
theorem flatMap_items_namedChildren (s : List Char) (n : Node) :
    n.namedChildren.flatMap (items s) = n.children.flatMap (items s) := by
  rw [namedChildren]
  generalize n.children = ns
  induction ns with
  | nil => rfl
  | cons n ns ih =>
    rw [namedOf, List.filter_cons, List.flatMap_cons]
    split
    case isTrue => rw [List.flatMap_cons, ← namedOf, ih]
    case isFalse h =>
      have hn : n.isListed = false := by
        rw [isNamed] at h
        rw [isListed]
        cases hk : n.kind <;> simp_all
      rw [items_of_not_isListed hn, List.nil_append, ← namedOf, ih]

/-! All that may be replaced is taken to be, which shows the ranges of it. -/

mutual
/-- The ranges of what is replaced below a node that is kept. -/
def replacedBelow? (p : Place) : Node → Node → Option (List (Nat × Nat))
  | .mk i cs, m =>
    if i.kind = m.kind ∧ i.field = m.info.field ∧ (mk i cs).bounds = m.bounds then
      (replacedAmong? (p.inside (.mk i cs)) cs m.children).filter fun rs =>
        !isRead p.outer i || rs.isEmpty
    else none

def replacedAmong? (p : Place) : List Node → List Node → Option (List (Nat × Nat))
  | [], [] => some []
  | n :: ns, m :: ms =>
    if p.Allows n m ∧ n.bounds = m.bounds then (replacedAmong? p ns ms).map (n.bounds :: ·)
    else (replacedBelow? p n m).bind fun rs => (replacedAmong? p ns ms).map (rs ++ ·)
  | _, _ => none
end

mutual
theorem like_of_replacedBelow? : ∀ (p : Place) (n m : Node) (rs : List (Nat × Nat)),
    replacedBelow? p n m = some rs →
    n.Like m ∧ (isRead p.outer n.info = true → rs = []) ∧
      Replaces (p.inside n) rs n.children m.children
  | p, .mk i cs, m, rs, h => by
    rw [replacedBelow?] at h
    split at h
    case isTrue hl =>
      obtain ⟨hr, hread⟩ := Option.filter_eq_some_iff.1 h
      refine ⟨⟨hl.1, hl.2.1, hl.2.2⟩, fun hi => ?_, replaces_of_replacedAmong? _ cs _ rs hr⟩
      simpa [show isRead p.outer i = true from hi] using hread
    case isFalse => cases h

theorem replaces_of_replacedAmong? : ∀ (p : Place) (ns ms : List Node) (rs : List (Nat × Nat)),
    replacedAmong? p ns ms = some rs → Replaces p rs ns ms
  | _, [], [], rs, h => by
    obtain rfl : [] = rs := by simpa [replacedAmong?] using h
    exact .nil
  | p, n :: ns, m :: ms, rs, h => by
    rw [replacedAmong?] at h
    split at h
    case isTrue ha =>
      obtain ⟨rs', hrs, rfl⟩ := Option.map_eq_some_iff.1 h
      exact .replaced ha.1 ha.2 (replaces_of_replacedAmong? p ns ms rs' hrs)
    case isFalse =>
      obtain ⟨below, hb, h⟩ := Option.bind_eq_some_iff.1 h
      obtain ⟨rs', hrs, rfl⟩ := Option.map_eq_some_iff.1 h
      obtain ⟨like, read, inside⟩ := like_of_replacedBelow? p n m below hb
      exact .kept like read inside (replaces_of_replacedAmong? p ns ms rs' hrs)
end

end Node
end Syntax

open Syntax.Node

/-- Trees without errors, of texts that differ in parts which are of no matter to the outermost
scope: the trees have other nodes there, of the same bytes, and the texts other characters. -/
structure DifferInInnerScopes (s t : List Char) (n m : Node) : Prop where
  left_errorFree : n.hasError = false
  right_errorFree : m.hasError = false
  ordered : n.IsOrdered
  replaced : ∃ rs, Replaces .outermost rs n.children m.children ∧ SameOutside 0 rs s t

/-- The scan finds the same items, at the same bytes. -/
theorem Program.items_ofTree_of_differInInnerScopes {s t : List Char} {n m : Node}
    (h : DifferInInnerScopes s t n m) :
    ∃ p q, ofTree s n = .ok p ∧ ofTree t m = .ok q ∧
      p.items.map (·.mapSpans Span.bytes) = q.items.map (·.mapSpans Span.bytes) := by
  refine ⟨_, _, ofTree_of_errorFree h.left_errorFree, ofTree_of_errorFree h.right_errorFree, ?_⟩
  obtain ⟨rs, hr, hst⟩ := h.replaced
  have hc := hr.forall₂ h.ordered.order (fun c hc => h.ordered.of_mem_children hc)
    (hst.agreeOutside _ _)
  simp only [flatMap_items_namedChildren, List.map_flatMap]
  refine flatMap_eq_of_forall₂ hc fun c _ d hcd => ?_
  rcases hcd with ha | hk
  · rw [items_of_not_isListed ha.1, items_of_not_isListed ha.2]
  · exact corresponds_of_keptAt.items_eq ⟨_, rfl, hk⟩

/-- Other parameters of a function, and another statement. -/
theorem Program.items_ofTree_of_differInInnerScopes_parameters :
    let s := "function f(a)\x7b\x7d;b".toList
    let t := "function f( )\x7b\x7d;;".toList
    ∃ n m, tree? s = some n ∧ tree? t = some m ∧ DifferInInnerScopes s t n m ∧
      ∃ p q, ofTree s n = .ok p ∧ ofTree t m = .ok q ∧
        p.items.map (·.mapSpans Span.bytes) = q.items.map (·.mapSpans Span.bytes) := by
  intro s t
  have hd : ((tree? s).bind fun n => (tree? t).map fun m =>
      (n.hasError, m.hasError, decide n.IsOrdered,
        (replacedAmong? .outermost n.children m.children).any fun rs =>
          decide (SameOutside 0 rs s t))) = some (false, false, true, true) := by
    decide +kernel
  obtain ⟨n, hn, hm⟩ := Option.bind_eq_some_iff.1 hd
  obtain ⟨m, hm, h⟩ := Option.map_eq_some_iff.1 hm
  simp only [Prod.mk.injEq, decide_eq_true_eq] at h
  obtain ⟨hl, hr, ho, h⟩ := h
  obtain ⟨rs, hrs, h⟩ := (Option.any_eq_true _ _).1 h
  have hc : DifferInInnerScopes s t n m :=
    ⟨hl, hr, ho, rs, replaces_of_replacedAmong? _ _ _ rs hrs, of_decide_eq_true h⟩
  exact ⟨n, m, hn, hm, hc, items_ofTree_of_differInInnerScopes hc⟩

end TypeScriptRepl
