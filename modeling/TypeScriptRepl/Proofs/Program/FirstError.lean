import TypeScriptRepl.Proofs.Program.Spans

/-! Which error of a text is reported, by a search that leaves out all subtrees that are not flagged. -/
namespace TypeScriptRepl

open Grammar Syntax

namespace Syntax.Node

/-- Whether the node itself covers text that fits nowhere, or stands for text that is missing. -/
def isFault (n : Node) : Bool := n.isError || n.isMissing

mutual
/-- All nodes of a tree, each before those below it, and from left to right. -/
def preorder : Node → List Node
  | .mk i cs => .mk i cs :: preorderAll cs

def preorderAll : List Node → List Node
  | [] => []
  | n :: ns => n.preorder ++ preorderAll ns
end

def faults (n : Node) : List Node := n.preorder.filter isFault

/-- A node is flagged if there is a fault in its tree, and only then. -/
def FlagsFaults (n : Node) : Prop :=
  ∀ m ∈ n.preorder, m.hasError = true ↔ ∃ f ∈ m.preorder, f.isFault = true

def IsOrdered (n : Node) : Prop :=
  ∀ m ∈ n.preorder, InOrder m.range.start m.range.stop (m.children.map bounds)

instance (n : Node) : Decidable n.FlagsFaults :=
  inferInstanceAs (Decidable (∀ m ∈ n.preorder, m.hasError = true ↔ _))

instance (n : Node) : Decidable n.IsOrdered :=
  inferInstanceAs (Decidable (∀ m ∈ n.preorder, _))

variable {n m : Node} {ns : List Node}

theorem preorder_eq (n : Node) : n.preorder = n :: preorderAll n.children := by
  cases n
  rfl

theorem mem_preorderAll : m ∈ preorderAll ns ↔ ∃ c ∈ ns, m ∈ c.preorder := by
  induction ns with
  | nil => simp [preorderAll]
  | cons n ns ih => simp [preorderAll, ih]

theorem mem_preorder_self (n : Node) : n ∈ n.preorder := by
  rw [preorder_eq]
  exact List.mem_cons_self

theorem forall_mem_preorder_child {p : Node → Prop} (h : ∀ m ∈ n.preorder, p m) {c : Node}
    (hc : c ∈ n.children) : ∀ m ∈ c.preorder, p m := by
  intro m hm
  refine h m ?_
  rw [preorder_eq]
  exact List.mem_cons_of_mem _ (mem_preorderAll.2 ⟨c, hc, hm⟩)

theorem IsOrdered.order (h : n.IsOrdered) :
    InOrder n.range.start n.range.stop (n.children.map bounds) :=
  h n n.mem_preorder_self

theorem IsOrdered.of_mem_children (h : n.IsOrdered) {c : Node} (hc : c ∈ n.children) :
    c.IsOrdered :=
  forall_mem_preorder_child h hc

/-! What the pruned search finds is what a search of the whole tree finds: by induction on the tree,
together with the nodes right below. -/

theorem FlagsFaults.find?_eq_none (h : n.FlagsFaults) (he : n.hasError = false) :
    n.preorder.find? isFault = none := by
  refine List.find?_eq_none.2 fun f hf hfault => ?_
  have hflag := (h n n.mem_preorder_self).2 ⟨f, hf, hfault⟩
  rw [he] at hflag
  cases hflag

mutual
theorem firstError?_eq_find? : ∀ n : Node, n.FlagsFaults →
    n.firstError? = n.preorder.find? isFault
  | .mk i cs, h => by
    have hcs := firstErrorIn?_eq_find? cs fun c hc => forall_mem_preorder_child h hc
    rw [firstError?, preorder, List.find?_cons, ← hcs]
    by_cases hf : (mk i cs).isFault = true
    · have hi : (i.kind = .error || i.isMissing) = true := hf
      rw [if_pos (by simpa using hi), hf]
    · have hi : ¬(i.kind = .error || i.isMissing) = true := hf
      rw [if_neg (by simpa using hi), Bool.eq_false_iff.2 hf]

theorem firstErrorIn?_eq_find? : ∀ ns : List Node, (∀ c ∈ ns, c.FlagsFaults) →
    firstErrorIn? ns = (preorderAll ns).find? isFault
  | [], _ => rfl
  | .mk i cs :: ns, h => by
    have hn := firstError?_eq_find? (.mk i cs) (h _ List.mem_cons_self)
    have hns := firstErrorIn?_eq_find? ns fun c hc => h c (List.mem_cons_of_mem _ hc)
    rw [firstErrorIn?, preorderAll, List.find?_append, hn, hns]
    split
    case isTrue => cases (preorder (.mk i cs)).find? isFault <;> rfl
    case isFalse he =>
      rw [(h _ List.mem_cons_self).find?_eq_none (Bool.eq_false_iff.2 he), Option.none_or]
end

theorem firstError?_eq_head? (h : n.FlagsFaults) : n.firstError? = n.faults.head? := by
  rw [firstError?_eq_find? n h, faults, List.head?_filter]

/-! In an ordered tree pre-order is the order in which nodes begin. -/

mutual
/-- All nodes of an ordered tree begin and end within it. -/
theorem within_of_mem_preorder : ∀ n : Node, n.IsOrdered → ∀ m ∈ n.preorder,
    n.range.start ≤ m.range.start ∧ m.range.start ≤ m.range.stop ∧ m.range.stop ≤ n.range.stop
  | .mk i cs, h, m, hm => by
    have ho := h _ (mem_preorder_self _)
    rcases List.mem_cons.1 hm with rfl | hm
    · exact ⟨le_rfl, ho.le, le_rfl⟩
    · exact within_of_mem_preorderAll cs ho (fun c hc => forall_mem_preorder_child h hc) m hm

theorem within_of_mem_preorderAll {a b : Nat} : ∀ ns : List Node, InOrder a b (ns.map bounds) →
    (∀ c ∈ ns, c.IsOrdered) → ∀ m ∈ preorderAll ns,
    a ≤ m.range.start ∧ m.range.start ≤ m.range.stop ∧ m.range.stop ≤ b
  | [], _, _, m, hm => absurd hm List.not_mem_nil
  | n :: ns, ho, h, m, hm => by
    rcases List.mem_append.1 hm with hm | hm
    · obtain ⟨hstart, hle, hstop⟩ := within_of_mem_preorder n (h n List.mem_cons_self) m hm
      exact ⟨ho.1.trans hstart, hle, hstop.trans ho.2.2.le⟩
    · obtain ⟨hstart, hle, hstop⟩ := within_of_mem_preorderAll ns ho.2.2
        (fun c hc => h c (List.mem_cons_of_mem n hc)) m hm
      exact ⟨(ho.1.trans ho.2.1).trans hstart, hle, hstop⟩
end

mutual
theorem pairwise_preorder : ∀ n : Node, n.IsOrdered →
    n.preorder.Pairwise fun f g => f.range.start ≤ g.range.start
  | .mk i cs, h => by
    have ho := h _ (mem_preorder_self _)
    have hcs : ∀ c ∈ cs, c.IsOrdered := fun c hc => forall_mem_preorder_child h hc
    exact List.pairwise_cons.2 ⟨fun m hm => (within_of_mem_preorderAll cs ho hcs m hm).1,
      pairwise_preorderAll cs ho hcs⟩

theorem pairwise_preorderAll {a b : Nat} : ∀ ns : List Node, InOrder a b (ns.map bounds) →
    (∀ c ∈ ns, c.IsOrdered) →
    (preorderAll ns).Pairwise fun f g => f.range.start ≤ g.range.start
  | [], _, _ => List.Pairwise.nil
  | n :: ns, ho, h => by
    have hn := h n List.mem_cons_self
    have hns : ∀ c ∈ ns, c.IsOrdered := fun c hc => h c (List.mem_cons_of_mem n hc)
    refine List.pairwise_append.2
      ⟨pairwise_preorder n hn, pairwise_preorderAll ns ho.2.2 hns, fun f hf g hg => ?_⟩
    obtain ⟨-, hle, hstop⟩ := within_of_mem_preorder n hn f hf
    exact (hle.trans hstop).trans (within_of_mem_preorderAll ns ho.2.2 hns g hg).1
end

/-- No fault begins before the first one. -/
theorem start_le_of_mem_faults (h : n.IsOrdered) {f g : Node} (hf : n.faults.head? = some f)
    (hg : g ∈ n.faults) : f.range.start ≤ g.range.start := by
  have hp := (pairwise_preorder n h).sublist (List.filter_sublist (p := isFault))
  obtain ⟨rest, hrest⟩ := List.head?_eq_some_iff.1 hf
  rw [faults] at hrest hg
  rw [hrest] at hp hg
  rcases List.mem_cons.1 hg with rfl | hg
  · exact le_rfl
  · exact (List.pairwise_cons.1 hp).1 g hg

end Syntax.Node

/-- An error says where a node begins, and if the node is missing also of which kind it is. -/
def ParseError.TellsOf (text : List Char) (n : Node) : ParseError → Prop
  | .noTree => False
  | .unexpected _ line column =>
    n.isMissing = false ∧ line = (n.span text).line ∧ column = (n.span text).column
  | .missing expected line column =>
    n.isMissing = true ∧ expected = n.kind.name ∧ line = (n.span text).line ∧
      column = (n.span text).column

theorem ParseError.tellsOf_ofNode (text : List Char) (n : Node) : (ofNode text n).TellsOf text n := by
  rw [ofNode]
  cases h : n.isMissing with
  | true => exact ⟨h, rfl, rfl, rfl⟩
  | false => exact ⟨h, rfl, rfl⟩

namespace Program

variable {text : List Char} {root : Node}

/-- The search finds the first of the faults of a tree, and no other fault begins before it. A tree
has a program if, and only if, it has no faults; otherwise the error tells of the first one. -/
theorem ofTree_tellsOf_first_fault (hf : root.FlagsFaults) (ho : root.IsOrdered) :
    (root.firstError? = none ↔ ∀ n ∈ root.preorder, n.isFault = false) ∧
    root.firstError? = root.faults.head? ∧
    (∀ f ∈ root.firstError?, ∀ g ∈ root.faults, f.range.start ≤ g.range.start) ∧
    ((∃ p, ofTree text root = .ok p) ↔ ∀ n ∈ root.preorder, n.isFault = false) ∧
    ∀ f ∈ root.firstError?, ∃ e, ofTree text root = .error e ∧ e.TellsOf text f := by
  have hfirst := Node.firstError?_eq_head? hf
  have hnone : root.firstError? = none ↔ ∀ n ∈ root.preorder, n.isFault = false := by
    rw [Node.firstError?_eq_find? root hf, List.find?_eq_none]
    exact forall₂_congr fun n _ => by rw [Bool.not_eq_true]
  have hflag : root.hasError = false ↔ root.firstError? = none := by
    rw [hnone, ← Bool.not_eq_true, hf root root.mem_preorder_self]
    simp
  refine ⟨hnone, hfirst, fun f hff g hg => ?_, ?_, fun f hff => ?_⟩
  · rw [hfirst] at hff
    exact Node.start_le_of_mem_faults ho hff hg
  · rw [← hnone, ← hflag]
    constructor
    · rintro ⟨p, hp⟩
      by_contra he
      rw [ofTree, if_pos (Bool.not_eq_false _ ▸ he)] at hp
      cases hp
    · exact fun he => ⟨_, ofTree_of_errorFree he⟩
  · have he : root.hasError = true := by
      by_contra he
      rw [hflag.1 (Bool.eq_false_iff.2 he)] at hff
      cases hff
    refine ⟨_, ?_, ParseError.tellsOf_ofNode text f⟩
    rw [ofTree, if_pos he, hff, Option.getD_some]

theorem ofTree_tellsOf_first_fault_missingSemicolon :
    let text := "\x7b\x7d1 2".toList
    ∃ root f e, tree? text = some root ∧ root.FlagsFaults ∧ root.IsOrdered ∧
      root.faults.map (fun g => (g.kind, g.range.start)) = [(.token ";", 3)] ∧
      root.firstError? = some f ∧ root.faults.head? = some f ∧
      ofTree text root = .error e ∧ e.TellsOf text f := by
  intro text
  have hd : (tree? text).any (fun root =>
      decide root.FlagsFaults && decide root.IsOrdered &&
        decide (root.faults.map (fun g => (g.kind, g.range.start)) = [(.token ";", 3)])) = true := by
    decide +kernel
  obtain ⟨root, hr, h⟩ := (Option.any_eq_true _ _).1 hd
  simp only [Bool.and_eq_true, decide_eq_true_eq] at h
  obtain ⟨⟨hf, ho⟩, hs⟩ := h
  obtain ⟨-, hfirst, -, -, herror⟩ := @ofTree_tellsOf_first_fault text root hf ho
  obtain ⟨f, hff⟩ : ∃ f, root.faults.head? = some f := by
    cases hl : root.faults with
    | nil => simp [hl] at hs
    | cons f fs => exact ⟨f, rfl⟩
  obtain ⟨e, he, ht⟩ := herror f (hfirst.trans hff)
  exact ⟨root, f, e, hr, hf, ho, hs, hfirst.trans hff, hff, he, ht⟩

end Program
end TypeScriptRepl
