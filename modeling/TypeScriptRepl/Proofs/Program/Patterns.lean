import TypeScriptRepl.Proofs.Program.FirstError

/-! What the targets of declarators bind: the identifiers in binding position, from left to right. -/
namespace TypeScriptRepl

open Grammar Syntax

namespace Syntax

namespace NodeKind

/-- The identifier `undefined`, as the grammar calls it in all patterns but shorthands. -/
def undefined : NodeKind := .other "undefined"

def isBoundName (k : NodeKind) : Bool :=
  k = .identifier || k = .shorthandPropertyIdentifierPattern || k = .undefined

def hasElements (k : NodeKind) : Bool :=
  k = .objectPattern || k = .arrayPattern || k = .restPattern

/-- The role of the pattern in a pair, which is not the key, or before a default. -/
def targetRole? : NodeKind → Option Field
  | .pairPattern => some .value
  | .assignmentPattern | .objectAssignmentPattern => some .left
  | _ => none

def isBlank : NodeKind → Bool
  | .token _ | .comment => true
  | k => k = .htmlComment

end NodeKind

namespace Node

/-- The patterns among some nodes, all others of which are blank, bind identifiers in this order. -/
inductive Binds : List Node → List Node → Prop
  | nil : Binds [] []
  | blank {n : Node} {ns xs : List Node} (hn : n.kind.isBlank = true) (rest : Binds ns xs) :
      Binds (n :: ns) xs
  | name {n : Node} {ns xs : List Node} (hn : n.kind.isBoundName = true) (rest : Binds ns xs) :
      Binds (n :: ns) (n :: xs)
  | target {n t : Node} {f : Field} {ns xs ys : List Node} (hn : n.kind.targetRole? = some f)
      (ht : n.child? f = some t) (inside : Binds [t] xs) (rest : Binds ns ys) :
      Binds (n :: ns) (xs ++ ys)
  | elements {n : Node} {ns xs ys : List Node} (hn : n.kind.hasElements = true)
      (inside : Binds n.children xs) (rest : Binds ns ys) : Binds (n :: ns) (xs ++ ys)

def recordsOf (s : List Char) (e : Bool) (xs : List Node) : List Declaration :=
  xs.map (·.declaration s .variable e)

def knownRecords (s : List Char) (e : Bool) (xs : List Node) : List Declaration :=
  recordsOf s e (xs.filter (·.kind ≠ .undefined))

variable {s : List Char} {e : Bool} {n t : Node} {ns xs : List Node}

theorem patternNames_of_isBlank (hn : n.kind.isBlank = true) : patternNames s e n = [] := by
  rw [patternNames_eq]
  split <;> simp_all [NodeKind.isBlank, NodeKind.htmlComment]

theorem patternNames_of_isBoundName (hn : n.kind.isBoundName = true) :
    patternNames s e n = knownRecords s e [n] := by
  simp only [NodeKind.isBoundName, Bool.or_eq_true, decide_eq_true_eq] at hn
  rw [patternNames_eq]
  rcases hn with (hn | hn) | hn <;> simp [hn, knownRecords, recordsOf, NodeKind.undefined]

theorem patternNames_of_targetRole? {f : Field} (hn : n.kind.targetRole? = some f) :
    patternNames s e n = ((n.child? f).map (patternNames s e)).getD [] := by
  rw [patternNames_eq]
  split <;> simp_all [NodeKind.targetRole?]

theorem patternNames_of_hasElements (hn : n.kind.hasElements = true) :
    patternNames s e n = elementNames s e n.children := by
  simp only [NodeKind.hasElements, Bool.or_eq_true, decide_eq_true_eq] at hn
  rw [patternNames_eq, elementNames_eq_flatMap]
  rcases hn with (hn | hn) | hn <;> rw [hn] <;> rfl

/-- Blank nodes need not be left out, for they bind nothing. -/
theorem elementNames_eq_append (n : Node) (ns : List Node) :
    elementNames s e (n :: ns) = patternNames s e n ++ elementNames s e ns := by
  rw [elementNames_cons]
  split
  case isTrue => rfl
  case isFalse hn =>
    rw [patternNames_of_isBlank]
    rw [isNamed] at hn
    cases hk : n.kind <;> simp_all [NodeKind.isBlank]

theorem knownRecords_append (xs ys : List Node) :
    knownRecords s e (xs ++ ys) = knownRecords s e xs ++ knownRecords s e ys := by
  simp only [knownRecords, recordsOf, List.filter_append, List.map_append]

/-- The names of patterns are the identifiers that they bind, with no `undefined` among them. -/
theorem elementNames_of_binds (h : Binds ns xs) : elementNames s e ns = knownRecords s e xs := by
  induction h with
  | nil => rfl
  | blank hn _ ih => rw [elementNames_eq_append, patternNames_of_isBlank hn, ih, List.nil_append]
  | @name n ns xs hn _ ih =>
    rw [elementNames_eq_append, patternNames_of_isBoundName hn, ih]
    exact (knownRecords_append [n] xs).symm
  | @target n t f ns xs ys hn ht _ _ ih ih' =>
    rw [elementNames_eq_append, elementNames, List.append_nil] at ih
    rw [elementNames_eq_append, patternNames_of_targetRole? hn, ht, Option.map_some,
      Option.getD_some, ih, ih', knownRecords_append]
  | elements hn _ _ ih ih' =>
    rw [elementNames_eq_append, patternNames_of_hasElements hn, ih, ih', knownRecords_append]

theorem patternNames_of_binds (h : Binds [t] xs) : patternNames s e t = knownRecords s e xs := by
  rw [← elementNames_of_binds h, elementNames_eq_append, elementNames, List.append_nil]

theorem knownRecords_eq_iff :
    knownRecords s e xs = recordsOf s e xs ↔ ∀ x ∈ xs, x.kind ≠ .undefined := by
  rw [knownRecords]
  constructor
  · intro h
    have hlen := congrArg List.length h
    simpa [recordsOf, List.length_filter_eq_length_iff] using hlen
  · intro h
    rw [List.filter_eq_self.2 fun x hx => decide_eq_true (h x hx)]

theorem IsOrdered.child?_inOrder {f : Field} (hn : n.IsOrdered) (ht : n.child? f = some t) :
    InOrder n.range.start n.range.stop ([t].map bounds) ∧ ∀ m ∈ [t], m.IsOrdered := by
  have hin := mem_of_child? ht
  refine ⟨InOrder.sublist ((List.singleton_sublist.2 hin).map bounds) hn.order, fun m hm => ?_⟩
  rw [List.mem_singleton.1 hm]
  exact hn.of_mem_children hin

/-- Identifiers that are bound stand one after another in the text. -/
theorem Binds.inOrder (h : Binds ns xs) : ∀ {a b : Nat}, InOrder a b (ns.map bounds) →
    (∀ n ∈ ns, n.IsOrdered) → InOrder a b (xs.map bounds) := by
  induction h with
  | nil => exact fun ho _ => ho
  | blank _ _ ih =>
    intro a b ho hns
    exact (ih ho.2.2 (List.forall_mem_cons.1 hns).2).mono_left (ho.1.trans ho.2.1)
  | name _ _ ih =>
    intro a b ho hns
    exact ⟨ho.1, ho.2.1, ih ho.2.2 (List.forall_mem_cons.1 hns).2⟩
  | target _ ht _ _ ih ih' =>
    intro a b ho hns
    obtain ⟨hn, hns⟩ := List.forall_mem_cons.1 hns
    obtain ⟨hone, ht⟩ := hn.child?_inOrder ht
    rw [List.map_append]
    exact (InOrder.mono_left (ih hone ht) ho.1).append (ih' ho.2.2 hns)
  | elements _ _ _ ih ih' =>
    intro a b ho hns
    obtain ⟨hn, hns⟩ := List.forall_mem_cons.1 hns
    rw [List.map_append]
    exact (InOrder.mono_left (ih hn.order fun m hm => hn.of_mem_children hm) ho.1).append
      (ih' ho.2.2 hns)

/-! Declarations of variables. -/

structure DeclaresBy (d : Node) (t : Node × List Node) : Prop where
  target : d.child? .name = some t.1
  binds : Binds [t.1] t.2

/-- A declaration of variables, with the targets of its declarators and what they bind. -/
structure DeclaresAll (n : Node) (ts : List (Node × List Node)) : Prop where
  kind : n.kind = .lexicalDeclaration ∨ n.kind = .variableDeclaration
  declarators : List.Forall₂ DeclaresBy (n.children.filter (·.kind = .variableDeclarator)) ts

theorem declarations_eq_flatMap
    (hn : n.kind = .lexicalDeclaration ∨ n.kind = .variableDeclaration) :
    n.declarations s e = (n.children.filter (·.kind = .variableDeclarator)).flatMap fun d =>
      ((d.child? .name).map (patternNames s e)).getD [] := by
  have hc : n.namedChildren.filter (·.kind = .variableDeclarator) =
      n.children.filter (·.kind = .variableDeclarator) := by
    rw [namedChildren, namedOf, List.filter_filter]
    congr 1
    funext d
    by_cases hd : d.kind = .variableDeclarator
    · simp [hd, isNamed]
    · simp [hd]
  rw [declarations, ← hc]
  rcases hn with hn | hn <;> rw [hn]

section Declarators

variable {ds : List Node} {ts : List (Node × List Node)}
  (h : List.Forall₂ DeclaresBy ds ts)
include h

theorem binds_of_declarators : ∀ t ∈ ts, Binds [t.1] t.2 := by
  induction h with
  | nil => exact fun t ht => absurd ht List.not_mem_nil
  | cons hd _ ih => exact List.forall_mem_cons.2 ⟨hd.binds, ih⟩

theorem inOrder_of_declarators {a b : Nat} (ho : InOrder a b (ds.map bounds))
    (hds : ∀ d ∈ ds, d.IsOrdered) : InOrder a b ((ts.flatMap (·.2)).map bounds) := by
  induction h generalizing a with
  | nil => exact ho
  | cons hd _ ih =>
    obtain ⟨hord, hds⟩ := List.forall_mem_cons.1 hds
    obtain ⟨hone, ht⟩ := hord.child?_inOrder hd.target
    rw [List.flatMap_cons, List.map_append]
    exact (InOrder.mono_left (hd.binds.inOrder hone ht) ho.1).append (ih ho.2.2 hds)

end Declarators

section Declaration

variable {ts : List (Node × List Node)} (h : n.DeclaresAll ts)
include h

theorem DeclaresAll.patternNames_eq :
    ∀ t ∈ ts, patternNames s e t.1 = knownRecords s e t.2 :=
  fun t ht => patternNames_of_binds (binds_of_declarators h.declarators t ht)

theorem DeclaresAll.declarations_eq_patternNames :
    n.declarations s e = ts.flatMap fun t => patternNames s e t.1 := by
  rw [declarations_eq_flatMap h.kind]
  exact flatMap_eq_of_forall₂ h.declarators fun d _ t hdt => by
    rw [hdt.target, Option.map_some, Option.getD_some]

/-- The records of a declaration are those of the identifiers that its targets bind, with no `undefined`
among them. -/
theorem DeclaresAll.declarations_eq :
    n.declarations s e = knownRecords s e (ts.flatMap (·.2)) := by
  rw [h.declarations_eq_patternNames, List.flatMap_congr h.patternNames_eq]
  simp only [knownRecords, recordsOf, List.filter_flatMap, List.map_flatMap]

end Declaration

/-! What a pattern binds can be computed. -/

mutual
def bound? : Node → Option (List Node)
  | .mk i cs =>
    if i.kind.isBlank then some []
    else if i.kind.isBoundName then some [.mk i cs]
    else if i.kind.hasElements then boundAmong? cs
    else i.kind.targetRole?.bind fun f => boundInRole? f cs

def boundInRole? (f : Field) : List Node → Option (List Node)
  | [] => none
  | .mk i cs :: ns => if i.field = some f then bound? (.mk i cs) else boundInRole? f ns

def boundAmong? : List Node → Option (List Node)
  | [] => some []
  | n :: ns => (bound? n).bind fun xs => (boundAmong? ns).map (xs ++ ·)
end

mutual
theorem binds_cons_of_bound? : ∀ (n : Node) (xs : List Node), bound? n = some xs →
    ∀ ns ys, Binds ns ys → Binds (n :: ns) (xs ++ ys)
  | .mk i cs, xs, h, ns, ys, rest => by
    rw [bound?] at h
    split at h
    case isTrue hi =>
      obtain rfl := Option.some.inj h
      exact .blank hi rest
    case isFalse =>
      split at h
      case isTrue hi =>
        obtain rfl := Option.some.inj h
        exact .name hi rest
      case isFalse =>
        split at h
        case isTrue hi => exact .elements hi (binds_of_boundAmong? cs xs h) rest
        case isFalse =>
          obtain ⟨f, hf, h⟩ := Option.bind_eq_some_iff.1 h
          obtain ⟨t, ht, inside⟩ := binds_of_boundInRole? f cs xs h
          exact .target hf ht inside rest

theorem binds_of_boundInRole? (f : Field) : ∀ (ns xs : List Node), boundInRole? f ns = some xs →
    ∃ t, ns.find? (·.info.field = some f) = some t ∧ Binds [t] xs
  | .mk i cs :: ns, xs, h => by
    rw [boundInRole?] at h
    rw [List.find?_cons]
    split at h
    case isTrue hi =>
      have hb := binds_cons_of_bound? (.mk i cs) xs h [] [] .nil
      rw [List.append_nil] at hb
      exact ⟨.mk i cs, by simp [info, hi], hb⟩
    case isFalse hi =>
      rw [show decide ((mk i cs).info.field = some f) = false from decide_eq_false hi]
      exact binds_of_boundInRole? f ns xs h

theorem binds_of_boundAmong? : ∀ ns xs : List Node, boundAmong? ns = some xs → Binds ns xs
  | [], xs, h => by
    obtain rfl : [] = xs := by simpa [boundAmong?] using h
    exact .nil
  | n :: ns, xs, h => by
    rw [boundAmong?] at h
    obtain ⟨ys, hy, h⟩ := Option.bind_eq_some_iff.1 h
    obtain ⟨zs, hz, rfl⟩ := Option.map_eq_some_iff.1 h
    exact binds_cons_of_bound? n ys hy ns zs (binds_of_boundAmong? ns zs hz)
end

def targets? : List Node → Option (List (Node × List Node))
  | [] => some []
  | d :: ds => (d.child? .name).bind fun t => (bound? t).bind fun xs =>
      (targets? ds).map ((t, xs) :: ·)

theorem declaresBy_of_targets? : ∀ (ds : List Node) (ts : List (Node × List Node)),
    targets? ds = some ts → List.Forall₂ DeclaresBy ds ts
  | [], ts, h => by
    obtain rfl : [] = ts := by simpa [targets?] using h
    exact .nil
  | d :: ds, ts, h => by
    rw [targets?] at h
    obtain ⟨t, ht, h⟩ := Option.bind_eq_some_iff.1 h
    obtain ⟨xs, hx, h⟩ := Option.bind_eq_some_iff.1 h
    obtain ⟨ts, hts, rfl⟩ := Option.map_eq_some_iff.1 h
    have hb := binds_cons_of_bound? t xs hx [] [] .nil
    rw [List.append_nil] at hb
    exact .cons ⟨ht, hb⟩ (declaresBy_of_targets? ds ts hts)

/-- A target is recorded by what it binds, identifier by identifier and in the order of the text, and
a declaration by what its targets bind, one after another. This is so exactly if no identifier is an
`undefined` of its own kind, for those are left out. -/
theorem declarations_of_binds {ts : List (Node × List Node)} (h : n.DeclaresAll ts) :
    (∀ t ∈ ts, patternNames s e t.1 = knownRecords s e t.2 ∧
      (patternNames s e t.1 = recordsOf s e t.2 ↔ ∀ x ∈ t.2, x.kind ≠ .undefined)) ∧
    n.declarations s e = ts.flatMap (fun t => patternNames s e t.1) ∧
    (n.declarations s e = recordsOf s e (ts.flatMap (·.2)) ↔
      ∀ x ∈ ts.flatMap (·.2), x.kind ≠ .undefined) ∧
    (n.IsOrdered → InOrder n.range.start n.range.stop ((ts.flatMap (·.2)).map bounds)) := by
  refine ⟨fun t ht => ⟨h.patternNames_eq t ht, ?_⟩, h.declarations_eq_patternNames, ?_, fun ho => ?_⟩
  · rw [h.patternNames_eq t ht, knownRecords_eq_iff]
  · rw [h.declarations_eq, knownRecords_eq_iff]
  · exact inOrder_of_declarators h.declarators
      (InOrder.sublist (List.filter_sublist.map bounds) ho.order)
      fun d hd => ho.of_mem_children (List.mem_filter.1 hd).1

/-- A renamed pair, an element with a default below it. -/
theorem declarations_of_binds_nested :
    let text := "let\x7ba:[b=c]\x7d=d".toList
    ∃ (root n : Node) (ts : List (Node × List Node)), tree? text = some root ∧
      n ∈ root.children ∧ n.DeclaresAll ts ∧
      (ts.flatMap (·.2)).map (Node.text text) = [['b']] ∧
      n.declarations text false = recordsOf text false (ts.flatMap (·.2)) := by
  intro text
  have hd : ((tree? text).bind fun root => root.children.head?.bind fun n =>
      (targets? (n.children.filter (·.kind = .variableDeclarator))).map fun ts =>
        (n.kind, (ts.flatMap (·.2)).map (Node.text text),
          (ts.flatMap (·.2)).all fun x => x.kind ≠ .undefined)) =
      some (.lexicalDeclaration, [['b']], true) := by
    decide +kernel
  obtain ⟨root, hr, hd⟩ := Option.bind_eq_some_iff.1 hd
  obtain ⟨n, hn, hd⟩ := Option.bind_eq_some_iff.1 hd
  obtain ⟨ts, hts, hd⟩ := Option.map_eq_some_iff.1 hd
  simp only [Prod.mk.injEq, List.all_eq_true, decide_eq_true_eq] at hd
  obtain ⟨hk, htext, hu⟩ := hd
  have hds : n.DeclaresAll ts := ⟨Or.inl hk, declaresBy_of_targets? _ ts hts⟩
  have hrec : n.declarations text false = recordsOf text false (ts.flatMap (·.2)) :=
    (declarations_of_binds hds).2.2.1.2 hu
  exact ⟨root, n, ts, hr, List.mem_of_head? hn, hds, htext, hrec⟩

/-- An element of an array pattern that is called `undefined` is not recorded. -/
theorem not_declarations_of_binds :
    let text := "let[undefined]=x".toList
    ∃ (root n : Node) (ts : List (Node × List Node)), tree? text = some root ∧
      root.hasError = false ∧ n ∈ root.children ∧ n.DeclaresAll ts ∧
      n.declarations text false ≠ recordsOf text false (ts.flatMap (·.2)) := by
  intro text
  have hd : ((tree? text).bind fun root => root.children.head?.bind fun n =>
      (targets? (n.children.filter (·.kind = .variableDeclarator))).map fun ts =>
        (root.hasError, n.kind, (n.declarations text false).length, (ts.flatMap (·.2)).length)) =
      some (false, .lexicalDeclaration, 0, 1) := by
    decide +kernel
  obtain ⟨root, hr, hd⟩ := Option.bind_eq_some_iff.1 hd
  obtain ⟨n, hn, hd⟩ := Option.bind_eq_some_iff.1 hd
  obtain ⟨ts, hts, hd⟩ := Option.map_eq_some_iff.1 hd
  simp only [Prod.mk.injEq] at hd
  obtain ⟨he, hk, hlen, hlen'⟩ := hd
  have hds : n.DeclaresAll ts := ⟨Or.inl hk, declaresBy_of_targets? _ ts hts⟩
  refine ⟨root, n, ts, hr, he, List.mem_of_head? hn, hds, fun h => ?_⟩
  have h := congrArg List.length h
  rw [recordsOf, List.length_map, hlen, hlen'] at h
  cases h

end Node
end Syntax
end TypeScriptRepl
