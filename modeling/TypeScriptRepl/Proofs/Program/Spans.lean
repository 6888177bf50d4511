import TypeScriptRepl.Proofs.Export.Extraction
import TypeScriptRepl.Proofs.Program.Comments
import TypeScriptRepl.Proofs.Text.Position

/-! The spans of a program cover what they are about, if the nodes of the syntax tree do. -/
namespace TypeScriptRepl

open Grammar Syntax Text

/-- Half-open ranges that follow one another between `a` and `b`. -/
def InOrder (a b : Nat) : List (Nat × Nat) → Prop
  | [] => a ≤ b
  | (x, y) :: rs => a ≤ x ∧ x ≤ y ∧ InOrder y b rs

namespace InOrder

instance decidable : (a b : Nat) → (rs : List (Nat × Nat)) → Decidable (InOrder a b rs)
  | a, b, [] => inferInstanceAs (Decidable (a ≤ b))
  | a, b, (x, y) :: rs =>
    have := decidable y b rs
    inferInstanceAs (Decidable (a ≤ x ∧ x ≤ y ∧ InOrder y b rs))

variable {a b c : Nat} {rs : List (Nat × Nat)}

theorem le (h : InOrder a b rs) : a ≤ b := by
  induction rs generalizing a with
  | nil => exact h
  | cons r rs ih =>
    obtain ⟨hx, hy, h⟩ := h
    exact hx.trans (hy.trans (ih h))

theorem mono_left (h : InOrder b c rs) (hab : a ≤ b) : InOrder a c rs := by
  cases rs with
  | nil => exact hab.trans h
  | cons r rs => exact ⟨hab.trans h.1, h.2⟩

theorem append {ss : List (Nat × Nat)} (h : InOrder a b rs) (hs : InOrder b c ss) :
    InOrder a c (rs ++ ss) := by
  induction rs generalizing a with
  | nil => exact hs.mono_left h
  | cons r rs ih => exact ⟨h.1, h.2.1, ih h.2.2⟩

theorem sublist {ss : List (Nat × Nat)} (hs : ss.Sublist rs) (h : InOrder a b rs) :
    InOrder a b ss := by
  induction hs generalizing a with
  | slnil => exact h
  | cons r hs ih => exact ih (h.2.2.mono_left (h.1.trans h.2.1))
  | cons_cons r hs ih => exact ⟨h.1, h.2.1, ih h.2.2⟩

/-- Ranges in each of some ranges, again one after another. -/
theorem flatMap {α : Type} {f : α → Nat × Nat} {g : α → List (Nat × Nat)} {xs : List α}
    (h : InOrder a b (xs.map f)) (hg : ∀ x ∈ xs, InOrder (f x).1 (f x).2 (g x)) :
    InOrder a b (xs.flatMap g) := by
  induction xs generalizing a with
  | nil => exact h
  | cons x xs ih =>
    have hx := (hg x List.mem_cons_self).mono_left h.1
    have hxs := ih h.2.2 fun y hy => hg y (List.mem_cons_of_mem x hy)
    rw [List.flatMap_cons]
    exact hx.append hxs

theorem mem_bounds (h : InOrder a b rs) : ∀ r ∈ rs, a ≤ r.1 ∧ r.1 ≤ r.2 ∧ r.2 ≤ b := by
  induction rs generalizing a with
  | nil => exact fun r hr => absurd hr List.not_mem_nil
  | cons r rs ih =>
    intro q hq
    rcases List.mem_cons.1 hq with rfl | hq
    · exact ⟨h.1, h.2.1, h.2.2.le⟩
    · obtain ⟨hx, hy⟩ := ih h.2.2 q hq
      exact ⟨(h.1.trans h.2.1).trans hx, hy⟩

theorem pairwise (h : InOrder a b rs) :
    rs.Pairwise fun q r => q.1 ≤ q.2 ∧ q.2 ≤ r.1 ∧ r.1 ≤ r.2 := by
  induction rs generalizing a with
  | nil => exact List.Pairwise.nil
  | cons r rs ih =>
    refine List.pairwise_cons.2 ⟨fun q hq => ?_, ih h.2.2⟩
    obtain ⟨hx, hy, -⟩ := h.2.2.mem_bounds q hq
    exact ⟨h.2.1, hx, hy⟩

end InOrder

namespace Syntax.Node

def bounds (n : Node) : Nat × Nat := (n.range.start, n.range.stop)

/-- The nodes of a tree stand at pieces of the text, children in order within their parents. -/
inductive PlacedIn (text : List Char) : Node → Prop
  | mk {i : Info} {cs : List Node} (piece : List Char) (covers : i.range.Covers text piece)
      (order : InOrder i.range.start i.range.stop (cs.map bounds))
      (children : ∀ c ∈ cs, PlacedIn text c) : PlacedIn text (.mk i cs)

variable {text : List Char} {n : Node}

theorem span_covers {piece : List Char} (h : n.range.Covers text piece) :
    (n.span text).Covers text (n.text text) := by
  obtain ⟨before, after, ht, hstart, hstop, hrow, hcol⟩ := h
  have hp : n.text text = piece := by
    have hs : slice? text n.range.start n.range.stop = some piece :=
      slice?_eq_some_iff.2 ⟨before, after, ht, hstart, hstop⟩
    rw [Node.text, hs, Option.getD_some]
  have hl : slice? text (n.range.start - n.range.column) n.range.start = some (lastLine before) := by
    obtain ⟨lines, hb⟩ : lastLine before <:+ before := List.rtakeWhile_suffix ..
    have hlen := congrArg byteLength hb
    rw [byteLength_append] at hlen
    refine slice?_eq_some_iff.2 ⟨lines, piece ++ after, ?_, by omega, by omega⟩
    rw [ht, hb, List.append_assoc]
  refine ⟨before, after, by rw [hp]; exact ht, hstart, by rw [hp]; exact hstop, ?_, ?_⟩
  · rw [span, hrow]
  · simp only [span, hl, Option.map_some, Option.getD_some]

theorem PlacedIn.span_covers (h : n.PlacedIn text) : (n.span text).Covers text (n.text text) := by
  cases h with
  | mk piece covers _ _ => exact Node.span_covers covers

theorem PlacedIn.order (h : n.PlacedIn text) :
    InOrder n.range.start n.range.stop (n.children.map bounds) := by
  cases h with
  | mk _ _ order _ => exact order

theorem PlacedIn.of_mem_children (h : n.PlacedIn text) {c : Node} (hc : c ∈ n.children) :
    c.PlacedIn text := by
  cases h with
  | mk _ _ _ children => exact children c hc

end Syntax.Node

/-- Names with their spans: each name is what its span covers, and they follow one another between
`a` and `b`. -/
structure Located (text : List Char) (a b : Nat) (ds : List (String × Span)) : Prop where
  order : InOrder a b (ds.map fun d => (d.2.start, d.2.stop))
  covers : ∀ d ∈ ds, d.2.Covers text d.1.toList

namespace Located

variable {text : List Char} {a b : Nat} {n : Node} {ns : List Node} {α : Type}

theorem nil (h : a ≤ b) : Located text a b [] := ⟨h, fun _ hd => absurd hd List.not_mem_nil⟩

theorem flatMap {bounds : α → Nat × Nat} {g : α → List (String × Span)} {xs : List α}
    (h : InOrder a b (xs.map bounds))
    (hg : ∀ x ∈ xs, Located text (bounds x).1 (bounds x).2 (g x)) :
    Located text a b (xs.flatMap g) := by
  constructor
  · rw [List.map_flatMap]
    exact h.flatMap fun x hx => (hg x hx).order
  · intro d hd
    obtain ⟨x, hx, hd⟩ := List.mem_flatMap.1 hd
    exact (hg x hx).covers d hd

/-- What is found in some of the children of a node. -/
theorem flatMap_children {g : Node → List (String × Span)} (hn : n.PlacedIn text)
    (hs : ns.Sublist n.children)
    (hg : ∀ c ∈ n.children, c.PlacedIn text → Located text c.range.start c.range.stop (g c)) :
    Located text n.range.start n.range.stop (ns.flatMap g) :=
  flatMap (hn.order.sublist (hs.map Node.bounds))
    fun c hc => hg c (hs.subset hc) (hn.of_mem_children (hs.subset hc))

end Located

def Declaration.place (d : Declaration) : String × Span := (d.name, d.span)

def ImportBinding.place (b : ImportBinding) : String × Span := (b.name, b.span)

namespace Syntax.Node

variable {text : List Char} {n : Node}

theorem PlacedIn.located_name (h : n.PlacedIn text) :
    Located text n.range.start n.range.stop [(n.nameText text, n.span text)] := by
  have hc := h.span_covers
  have hle : (n.span text).start ≤ (n.span text).stop := by
    obtain ⟨_, _, -, hstart, hstop, -⟩ := hc
    omega
  refine ⟨⟨le_rfl, hle, le_rfl⟩, fun d hd => ?_⟩
  obtain rfl := List.mem_singleton.1 hd
  rw [nameText, String.toList_ofList]
  exact hc

private theorem toList_find?_sublist {α : Type} (p : α → Bool) (xs : List α) :
    (xs.find? p).toList.Sublist xs := by
  rw [← List.head?_filter]
  refine List.Sublist.trans ?_ (List.filter_sublist (p := p))
  cases xs.filter p <;> simp

theorem namedChildren_sublist (n : Node) : n.namedChildren.Sublist n.children :=
  List.filter_sublist

theorem PlacedIn.located_child? (h : n.PlacedIn text) (f : Field)
    {g : Node → List (String × Span)}
    (hg : ∀ c ∈ n.children, c.PlacedIn text → Located text c.range.start c.range.stop (g c)) :
    Located text n.range.start n.range.stop ((n.child? f).toList.flatMap g) :=
  .flatMap_children h (toList_find?_sublist _ _) hg

theorem PlacedIn.located_firstNamed? (h : n.PlacedIn text) (k : NodeKind)
    {g : Node → List (String × Span)}
    (hg : ∀ c ∈ n.children, c.PlacedIn text → Located text c.range.start c.range.stop (g c)) :
    Located text n.range.start n.range.stop ((n.firstNamed? k).toList.flatMap g) :=
  .flatMap_children h ((toList_find?_sublist _ _).trans n.namedChildren_sublist) hg

theorem PlacedIn.located_namedChildren (h : n.PlacedIn text) {g : Node → List (String × Span)}
    (hg : ∀ c ∈ n.children, c.PlacedIn text → Located text c.range.start c.range.stop (g c)) :
    Located text n.range.start n.range.stop (n.namedChildren.flatMap g) :=
  .flatMap_children h n.namedChildren_sublist hg

private theorem getD_map_eq_flatMap {α β : Type} (f : α → List β) (o : Option α) :
    (o.map f).getD [] = o.toList.flatMap f := by
  cases o with
  | none => rfl
  | some a => exact (List.append_nil _).symm

theorem located_patternNames (e : Bool) (n : Node) : n.PlacedIn text →
    Located text n.range.start n.range.stop ((patternNames text e n).map Declaration.place) := by
  induction n using Node.induction with
  | step n ih =>
    intro h
    rw [patternNames_eq, getD_map_eq_flatMap, getD_map_eq_flatMap]
    split
    case h_1 | h_2 => exact h.located_name
    case h_3 | h_4 | h_5 =>
      rw [List.map_flatMap]
      exact h.located_child? _ ih
    case h_6 | h_7 | h_8 =>
      rw [List.map_flatMap]
      exact h.located_namedChildren ih
    case h_9 => exact .nil h.order.le

section

variable {e : Bool} {k : DeclarationKind}

theorem located_namedDeclaration (h : n.PlacedIn text) : Located text n.range.start n.range.stop
    ((namedDeclaration text e k n).map Declaration.place) := by
  rw [namedDeclaration, List.map_map, List.map_eq_flatMap]
  exact h.located_child? .name fun c _ hc => hc.located_name

theorem located_namespaceDeclaration (h : n.PlacedIn text) : Located text n.range.start n.range.stop
    ((namespaceDeclaration text e n).map Declaration.place) := by
  rw [namespaceDeclaration]
  split
  · exact located_namedDeclaration h
  · exact .nil h.order.le

theorem located_declarations (h : n.PlacedIn text) : Located text n.range.start n.range.stop
    ((n.declarations text e).map Declaration.place) := by
  rw [declarations]
  split
  case h_1 | h_2 | h_3 | h_4 | h_5 => exact located_namedDeclaration h
  case h_6 =>
    split
    · exact .nil h.order.le
    · exact located_namedDeclaration h
  case h_7 | h_8 => exact located_namespaceDeclaration h
  case h_9 =>
    rw [getD_map_eq_flatMap, List.map_flatMap]
    exact h.located_firstNamed? .internalModule fun c _ hc => located_namespaceDeclaration hc
  case h_10 | h_11 =>
    rw [List.map_flatMap]
    refine .flatMap_children h (List.filter_sublist.trans n.namedChildren_sublist) fun c _ hc => ?_
    rw [getD_map_eq_flatMap, List.map_flatMap]
    exact hc.located_child? .name fun d _ hd => located_patternNames e d hd
  case h_12 => exact .nil h.order.le

theorem located_defaultDeclaration (h : n.PlacedIn text) : Located text n.range.start n.range.stop
    ((n.defaultDeclaration text).map Declaration.place) := by
  rw [defaultDeclaration]
  split
  case h_1 | h_2 | h_3 | h_4 => exact located_namedDeclaration h
  case h_5 => exact .nil h.order.le

end

theorem located_firstBinding (h : n.PlacedIn text) : Located text n.range.start n.range.stop
    (((n.firstNamed? .identifier).toList.map (binding text)).map ImportBinding.place) := by
  rw [List.map_map, List.map_eq_flatMap]
  exact h.located_firstNamed? .identifier fun c _ hc => hc.located_name

theorem located_specifierBinding (h : n.PlacedIn text) : Located text n.range.start n.range.stop
    ((n.specifierBinding text).toList.map ImportBinding.place) := by
  rw [specifierBinding]
  split
  · exact .nil h.order.le
  · rw [Option.toList_map, List.map_map, List.map_eq_flatMap]
    refine .flatMap_children h ?_ fun c _ hc => hc.located_name
    have hs (o : Option Node) (ho : o.toList.Sublist n.children) :
        (o.filter (·.kind = .identifier)).toList.Sublist n.children := by
      rw [Option.toList_filter]
      exact List.filter_sublist.trans ho
    refine hs _ ?_
    cases ha : n.child? .alias with
    | none => exact toList_find?_sublist _ _
    | some c =>
      have hc := toList_find?_sublist (fun c : Node => c.info.field = some .alias) n.children
      rwa [← Node.child?, ha] at hc

theorem located_clauseBindings (h : n.PlacedIn text) : Located text n.range.start n.range.stop
    ((n.clauseBindings text).map ImportBinding.place) := by
  rw [clauseBindings]
  split
  case h_1 => exact h.located_name
  case h_2 => exact located_firstBinding h
  case h_3 =>
    rw [List.filterMap_eq_flatMap_toList, List.map_flatMap]
    exact h.located_namedChildren fun c _ hc => located_specifierBinding hc
  case h_4 => exact .nil h.order.le

theorem located_importBindings (h : n.PlacedIn text) : Located text n.range.start n.range.stop
    ((n.importBindings text).map ImportBinding.place) := by
  rw [importBindings]
  split
  case h_1 =>
    rw [List.map_flatMap]
    exact h.located_namedChildren fun c _ hc => located_clauseBindings hc
  case h_2 => exact located_firstBinding h
  case h_3 => exact .nil h.order.le

private theorem places_imports (bs : List ImportBinding) (σ : Span) :
    ([Item.imports ⟨bs, σ⟩].flatMap Item.bindings).map Declaration.place =
      bs.map ImportBinding.place := by
  rw [List.flatMap_singleton, Item.bindings, List.map_map]
  rfl

theorem located_exportItems (h : n.PlacedIn text) : Located text n.range.start n.range.stop
    (((n.exportItems text).flatMap Item.bindings).map Declaration.place) := by
  rw [exportItems]
  split
  case h_1 d hd =>
    rw [Item.bindings_declares]
    have hc := h.located_child? .declaration
      fun c _ hc => located_declarations (e := !n.hasToken "default") hc
    rwa [hd, Option.toList_some, List.flatMap_singleton] at hc
  case h_2 =>
    split
    case h_1 v hv =>
      rw [Item.bindings_declares]
      have hc := h.located_child? .value fun c _ hc => located_defaultDeclaration hc
      rwa [hv, Option.toList_some, List.flatMap_singleton] at hc
    case h_2 =>
      have hnil : Located text n.range.start n.range.stop [] := .nil h.order.le
      split
      · exact hnil
      · split <;> exact hnil

theorem located_items (h : n.PlacedIn text) : Located text n.range.start n.range.stop
    (((n.items text).flatMap Item.bindings).map Declaration.place) := by
  rw [items]
  split
  case h_1 =>
    split
    · exact .nil h.order.le
    · rw [places_imports, List.map_flatMap]
      exact h.located_namedChildren fun c _ hc => located_importBindings hc
  case h_2 =>
    rw [List.flatMap_map, List.map_flatMap]
    exact h.located_firstNamed? .identifier fun c _ hc => hc.located_name
  case h_3 => exact located_exportItems h
  case h_4 =>
    rw [Item.bindings_declares]
    exact located_declarations h

end Syntax.Node

/-- The span of a statement as a whole. That of a declaration is the one of its name. -/
def Item.ownSpan? : Item → Option Span
  | .imports i => some i.span
  | .declares _ => none
  | .exports l => some l.span

def Item.spans (i : Item) : List Span := i.ownSpan?.toList ++ i.bindings.map (·.span)

def Program.spans (p : Program) : List Span := p.span :: p.items.flatMap Item.spans

theorem Syntax.Node.ownSpan?_items {text : List Char} {n : Node} {i : Item} (hi : i ∈ n.items text)
    {σ : Span} (hσ : i.ownSpan? = some σ) : σ = n.span text := by
  have hd (ds : List Declaration) (h : i ∈ ds.map Item.declares) : False := by
    obtain ⟨d, -, rfl⟩ := List.mem_map.1 h
    cases hσ
  rw [items] at hi
  split at hi
  case h_1 =>
    split at hi
    · cases hi
    · obtain rfl := List.mem_singleton.1 hi
      exact (Option.some.inj hσ).symm
  case h_2 =>
    obtain ⟨name, -, rfl⟩ := List.mem_map.1 hi
    exact (Option.some.inj hσ).symm
  case h_3 =>
    rw [exportItems] at hi
    split at hi
    · exact (hd _ hi).elim
    split at hi
    · exact (hd _ hi).elim
    split at hi
    · cases hi
    split at hi
    · cases hi
    · obtain rfl := List.mem_singleton.1 hi
      exact (Option.some.inj hσ).symm
  case h_4 => exact (hd _ hi).elim

/-- The span of a program covers a piece of the text, and so does every span in it; what the span of
a name covers is the name, within the span of the program. -/
structure Program.PlacedIn (text : List Char) (p : Program) : Prop where
  spans : ∀ σ ∈ p.spans, ∃ piece, σ.Covers text piece
  names : ∀ d ∈ p.bindings, d.span.Covers text d.name.toList
  within : ∀ d ∈ p.bindings, p.span.start ≤ d.span.start ∧ d.span.stop ≤ p.span.stop

/-- One span ends before another begins, and they are not both empty at one place. -/
def Span.Precedes (a b : Span) : Prop :=
  a.stop ≤ b.start ∧ (a.start < b.start ∨ a.start = b.start ∧ a.stop < b.stop)

namespace Program

variable {text : List Char} {root : Node} {p : Program}

theorem located_bindings (hr : root.PlacedIn text) (h : ofTree text root = .ok p) :
    Located text p.span.start p.span.stop (p.bindings.map Declaration.place) := by
  rw [ofTree] at h
  split at h
  · cases h
  · cases h
    rw [Program.bindings, List.flatMap_assoc, List.map_flatMap]
    exact hr.located_namedChildren fun c _ hc => Node.located_items hc

theorem placedIn_ofTree (hr : root.PlacedIn text) (h : ofTree text root = .ok p) :
    p.PlacedIn text := by
  have hl := located_bindings hr h
  have hnames : ∀ d ∈ p.bindings, d.span.Covers text d.name.toList :=
    fun d hd => hl.covers d.place (List.mem_map_of_mem hd)
  refine ⟨fun σ hσ => ?_, hnames, fun d hd => ?_⟩
  · rw [ofTree] at h
    split at h
    · cases h
    · cases h
      rcases List.mem_cons.1 hσ with rfl | hσ
      · exact ⟨_, hr.span_covers⟩
      obtain ⟨i, hi, hσ⟩ := List.mem_flatMap.1 hσ
      rcases List.mem_append.1 hσ with hσ | hσ
      · obtain ⟨n, hn, hin⟩ := List.mem_flatMap.1 hi
        obtain rfl := Node.ownSpan?_items hin (Option.mem_toList.1 hσ)
        exact ⟨_, (hr.of_mem_children (root.namedChildren_sublist.subset hn)).span_covers⟩
      · obtain ⟨d, hd, rfl⟩ := List.mem_map.1 hσ
        exact ⟨_, hnames d (List.mem_flatMap.2 ⟨i, hi, hd⟩)⟩
  · have hmem : (d.span.start, d.span.stop) ∈
        (p.bindings.map Declaration.place).map fun x => (x.2.start, x.2.stop) :=
      List.mem_map_of_mem (List.mem_map_of_mem hd)
    obtain ⟨hstart, -, hstop⟩ := hl.order.mem_bounds _ hmem
    exact ⟨hstart, hstop⟩

end Program

/-- Pieces that follow one another are so even if they are empty, since the names are distinct. -/
theorem Span.precedes_of_names {text : List Char} {σ τ : Span} {s t : String}
    (hs : σ.Covers text s.toList) (ht : τ.Covers text t.toList) (hστ : σ.stop ≤ τ.start)
    (hne : s ≠ t) : σ.Precedes τ := by
  obtain ⟨_, _, -, hsstart, hsstop, -⟩ := hs
  obtain ⟨_, _, -, htstart, htstop, -⟩ := ht
  refine ⟨hστ, ?_⟩
  by_contra hn
  have hs0 : byteLength s.toList = 0 := by omega
  have ht0 : byteLength t.toList = 0 := by omega
  have hnames : s.toList = t.toList := by
    rw [byteLength_eq_zero hs0, byteLength_eq_zero ht0]
  exact hne (String.toList_inj.1 hnames)

namespace Extraction

variable {text : List Char} {root : Node} {p : Program}

theorem declarations_precede (hr : root.PlacedIn text) (h : Program.ofTree text root = .ok p) :
    (ofProgram p).declarations.Pairwise fun a b => a.span.Precedes b.span := by
  have hl := Program.located_bindings hr h
  have hnames : ∀ d ∈ p.bindings, d.span.Covers text d.name.toList :=
    fun d hd => hl.covers d.place (List.mem_map_of_mem hd)
  have horder : p.bindings.Pairwise fun a b => a.span.stop ≤ b.span.start := by
    have ho := hl.order.pairwise
    rw [List.map_map, List.pairwise_map] at ho
    exact ho.imp fun h => h.2.1
  have hdistinct : (firstBindings p.bindings).Pairwise fun a b => a.name ≠ b.name := by
    have hn := (ofProgram p).symbols.nodup
    rw [symbols_ofProgram] at hn
    exact List.pairwise_map.1 hn
  have hsub := firstBindings_sublist p.bindings
  rw [declarations_ofProgram, List.pairwise_map]
  refine ((horder.sublist hsub).and hdistinct).imp_of_mem fun {a b} ha hb hab => ?_
  have ha := hnames a (hsub.subset ha)
  have hb := hnames b (hsub.subset hb)
  exact Span.precedes_of_names ha hb hab.1 hab.2

/-- In every program of a text the spans are exact; the declarations of the extraction follow one
another. Of the parser only this is used: the nodes of its tree stand at pieces of the text, in
order. -/
theorem placedIn_of_parseBy {grammar : List Char → Option Node} {source : String}
    (hg : ∀ root, grammar source.toList = some root → root.PlacedIn source.toList)
    (h : Program.parseBy grammar source = .ok p) :
    p.PlacedIn source.toList ∧
      (ofProgram p).declarations.Pairwise fun a b => a.span.Precedes b.span := by
  rw [Program.parseBy] at h
  split at h
  case h_1 => cases h
  case h_2 root hroot =>
    have hr := hg root hroot
    exact ⟨Program.placedIn_ofTree hr h, declarations_precede hr h⟩

end Extraction

namespace Syntax

def Range.isIn (text : List Char) (r : Range) : Bool :=
  (slice? text r.start r.stop).isSome && (takeBytes? text r.start).any fun before =>
    r.row = before.count '\n' && r.column = byteLength (lastLine before)

theorem Range.covers_of_isIn {text : List Char} {r : Range} (h : r.isIn text = true) :
    ∃ piece, r.Covers text piece := by
  obtain ⟨hs, hb⟩ := Bool.and_eq_true_iff.1 h
  obtain ⟨piece, hp⟩ := Option.isSome_iff_exists.1 hs
  obtain ⟨before, after, rfl, hstart, hstop⟩ := slice?_eq_some_iff.1 hp
  rw [hstart, List.append_assoc, takeBytes?_byteLength, Option.any_some] at hb
  simp only [Bool.and_eq_true, decide_eq_true_eq] at hb
  exact ⟨piece, before, after, rfl, hstart, hstop, hb⟩

namespace Node

mutual
def isPlacedIn (text : List Char) : Node → Bool
  | .mk i cs =>
    i.range.isIn text && decide (InOrder i.range.start i.range.stop (cs.map bounds)) &&
      arePlacedIn text cs

def arePlacedIn (text : List Char) : List Node → Bool
  | [] => true
  | n :: ns => n.isPlacedIn text && arePlacedIn text ns
end

mutual
theorem placedIn_of_isPlacedIn {text : List Char} : ∀ n : Node, n.isPlacedIn text = true →
    n.PlacedIn text
  | .mk i cs, h => by
    rw [isPlacedIn, Bool.and_eq_true, Bool.and_eq_true] at h
    obtain ⟨piece, hp⟩ := Range.covers_of_isIn h.1.1
    exact .mk piece hp (of_decide_eq_true h.1.2) (placedIn_of_arePlacedIn cs h.2)

theorem placedIn_of_arePlacedIn {text : List Char} : ∀ ns : List Node,
    arePlacedIn text ns = true → ∀ c ∈ ns, c.PlacedIn text
  | [], _ => fun _ hc => absurd hc List.not_mem_nil
  | n :: ns, h => by
    rw [arePlacedIn, Bool.and_eq_true] at h
    exact List.forall_mem_cons.2 ⟨placedIn_of_isPlacedIn n h.1, placedIn_of_arePlacedIn ns h.2⟩
end

end Node
end Syntax

/-- A pattern over two lines, after a character of two bytes, that binds a name twice. -/
theorem Extraction.placedIn_of_parseBy_twoLines :
    let source := "var é, [a,\né, b]"
    ∃ p, (∀ root, tree? source.toList = some root → root.PlacedIn source.toList) ∧
      Program.parseBy tree? source = .ok p ∧
      (ofProgram p).declarations.map (fun d => (d.name, d.span)) =
        [("é", ⟨4, 6, 1, 5⟩), ("a", ⟨9, 10, 1, 9⟩), ("b", ⟨16, 17, 2, 4⟩)] ∧
      p.PlacedIn source.toList ∧
        (ofProgram p).declarations.Pairwise fun a b => a.span.Precedes b.span := by
  intro source
  have hd : (tree? source.toList).map (fun root => (root.hasError, root.isPlacedIn source.toList,
      (ofProgram ⟨root.namedChildren.flatMap (Node.items source.toList),
        root.span source.toList⟩).declarations.map (fun d => (d.name, d.span)))) =
      some (false, true,
        [("é", ⟨4, 6, 1, 5⟩), ("a", ⟨9, 10, 1, 9⟩), ("b", ⟨16, 17, 2, 4⟩)]) := by
    decide +kernel
  obtain ⟨root, hr, h⟩ := Option.map_eq_some_iff.1 hd
  simp only [Prod.mk.injEq] at h
  have hg : ∀ r, tree? source.toList = some r → r.PlacedIn source.toList := by
    intro r h'
    obtain rfl := Option.some.inj (hr.symm.trans h')
    exact Node.placedIn_of_isPlacedIn root h.2.1
  have hp := Program.ofTree_of_errorFree (s := source.toList) h.1
  have hp' : Program.parseBy tree? source = Program.ofTree source.toList root := by
    rw [Program.parseBy, hr]
  exact ⟨_, hg, hp'.trans hp, h.2.2, placedIn_of_parseBy hg (hp'.trans hp)⟩

end TypeScriptRepl
