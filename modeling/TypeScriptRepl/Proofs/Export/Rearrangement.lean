import TypeScriptRepl.Proofs.Export.Extraction

/-! Programs whose export clauses are moved, reordered, repeated and parted. -/
namespace TypeScriptRepl

/-- The second list of items is the first with its export clauses rearranged; all other items stay in
their order. What one step does another may undo. -/
inductive Rearranges : List Item → List Item → Prop
  | move (l : ExportList) (before between after : List Item) :
      Rearranges (before ++ .exports l :: between ++ after)
        (before ++ between ++ .exports l :: after)
  | reorder {ss ts : List ExportSpecifier} (h : ss.Perm ts) (source : Option String) (span : Span)
      (before after : List Item) :
      Rearranges (before ++ .exports ⟨ss, source, span⟩ :: after)
        (before ++ .exports ⟨ts, source, span⟩ :: after)
  | part (ss ts : List ExportSpecifier) (source : Option String) (span first second : Span)
      (before after : List Item) :
      Rearranges (before ++ .exports ⟨ss ++ ts, source, span⟩ :: after)
        (before ++ .exports ⟨ss, source, first⟩ :: .exports ⟨ts, source, second⟩ :: after)
  | repeatSpecifier {s : ExportSpecifier} {ss : List ExportSpecifier} (h : s ∈ ss)
      (source : Option String) (span : Span) (before after : List Item) :
      Rearranges (before ++ .exports ⟨ss, source, span⟩ :: after)
        (before ++ .exports ⟨s :: ss, source, span⟩ :: after)
  | repeatClause (l : ExportList) (before after : List Item) :
      Rearranges (before ++ .exports l :: after) (before ++ .exports l :: .exports l :: after)
  | refl (is : List Item) : Rearranges is is
  | symm {is js : List Item} (h : Rearranges is js) : Rearranges js is
  | trans {is js ks : List Item} (h : Rearranges is js) (h' : Rearranges js ks) : Rearranges is ks

namespace Item

def specifiers : Item → List (Option String × ExportSpecifier)
  | .exports l => l.specifiers.map (l.source, ·)
  | _ => []

def isClause : Item → Bool
  | .exports _ => true
  | _ => false

def others (is : List Item) : List Item := is.filter (!·.isClause)

theorem mem_specifiers_exports {ss : List ExportSpecifier} {source : Option String} {span : Span}
    {c : Option String × ExportSpecifier} :
    c ∈ (Item.exports ⟨ss, source, span⟩).specifiers ↔ source = c.1 ∧ c.2 ∈ ss := by
  obtain ⟨c, s⟩ := c
  simp [specifiers, and_comm, and_assoc]

theorem others_append (is js : List Item) : others (is ++ js) = others is ++ others js :=
  List.filter_append ..

theorem others_clause (l : ExportList) (is : List Item) : others (.exports l :: is) = others is := rfl

/-- Clauses bind nothing. -/
theorem flatMap_bindings_others (is : List Item) :
    (others is).flatMap bindings = is.flatMap bindings := by
  induction is with
  | nil => rfl
  | cons i is ih => cases i <;> simp_all [others, isClause, bindings]

/-- What some item does, an item that is no clause does, or a specifier. -/
theorem exists_mem_iff {C : Item → Prop} {D : Option String × ExportSpecifier → Prop}
    (hc : ∀ l, C (.exports l) ↔ ∃ s ∈ l.specifiers, D (l.source, s)) (is : List Item) :
    (∃ i ∈ is, C i) ↔ (∃ i ∈ others is, C i) ∨ ∃ c ∈ is.flatMap specifiers, D c := by
  constructor
  · rintro ⟨i, hi, h⟩
    cases i with
    | exports l =>
      obtain ⟨s, hs, hd⟩ := (hc l).1 h
      exact Or.inr ⟨(l.source, s), List.mem_flatMap.2 ⟨_, hi, List.mem_map_of_mem hs⟩, hd⟩
    | imports i => exact Or.inl ⟨_, List.mem_filter.2 ⟨hi, rfl⟩, h⟩
    | declares d => exact Or.inl ⟨_, List.mem_filter.2 ⟨hi, rfl⟩, h⟩
  · rintro (⟨i, hi, h⟩ | ⟨c, hm, hd⟩)
    · exact ⟨i, (List.mem_filter.1 hi).1, h⟩
    · obtain ⟨i, hi, hm⟩ := List.mem_flatMap.1 hm
      cases i with
      | exports l =>
        obtain ⟨s, hs, rfl⟩ := List.mem_map.1 hm
        exact ⟨_, hi, (hc l).2 ⟨s, hs, hd⟩⟩
      | imports i => cases hm
      | declares d => cases hm

end Item

namespace Rearranges

variable {is js : List Item}

theorem others_eq (h : Rearranges is js) : Item.others is = Item.others js := by
  induction h with
  | move | reorder | part | repeatSpecifier | repeatClause =>
    simp [Item.others_append, Item.others_clause]
  | refl => rfl
  | symm _ ih => exact ih.symm
  | trans _ _ ih ih' => exact ih.trans ih'

theorem mem_specifiers_iff (h : Rearranges is js) (c : Option String × ExportSpecifier) :
    c ∈ is.flatMap Item.specifiers ↔ c ∈ js.flatMap Item.specifiers := by
  induction h with
  | move l before between after =>
    simp only [List.flatMap_append, List.flatMap_cons, List.mem_append]
    grind
  | reorder h source span before after =>
    simp only [List.flatMap_append, List.flatMap_cons, List.mem_append,
      Item.mem_specifiers_exports, h.mem_iff]
  | part ss ts source span first second before after =>
    simp only [List.flatMap_append, List.flatMap_cons, List.mem_append,
      Item.mem_specifiers_exports]
    grind
  | repeatSpecifier h source span before after =>
    simp only [List.flatMap_append, List.flatMap_cons, List.mem_append,
      Item.mem_specifiers_exports, List.mem_cons]
    grind
  | repeatClause l before after =>
    simp only [List.flatMap_append, List.flatMap_cons, List.mem_append]
    grind
  | refl => rfl
  | symm _ ih => exact ih.symm
  | trans _ _ ih ih' => exact ih.trans ih'

/-- What is said item by item, and of clauses specifier by specifier, does not depend on where the
clauses stand. -/
theorem exists_mem_iff (h : Rearranges is js) {C : Item → Prop}
    {D : Option String × ExportSpecifier → Prop}
    (hc : ∀ l, C (.exports l) ↔ ∃ s ∈ l.specifiers, D (l.source, s)) :
    (∃ i ∈ is, C i) ↔ ∃ i ∈ js, C i := by
  rw [Item.exists_mem_iff hc is, Item.exists_mem_iff hc js, h.others_eq]
  simp only [h.mem_specifiers_iff]

theorem bindings_eq (h : Rearranges is js) :
    is.flatMap Item.bindings = js.flatMap Item.bindings := by
  rw [← Item.flatMap_bindings_others, h.others_eq, Item.flatMap_bindings_others]

end Rearranges

variable {p q : Program}

theorem Program.exposes_of_rearranges (h : Rearranges p.items q.items) (name : String) :
    p.Exposes name ↔ q.Exposes name :=
  h.exists_mem_iff (C := (·.Exposes name)) (D := fun c => c.2.Exposes c.1.isSome name) fun _ => Iff.rfl

theorem Program.takes_of_rearranges (h : Rearranges p.items q.items) (name : String) :
    p.Takes name ↔ q.Takes name :=
  h.exists_mem_iff (C := (·.Takes name)) (D := fun c => c.2.Takes c.1.isSome name) fun _ => Iff.rfl

theorem Program.exports_of_rearranges (h : Rearranges p.items q.items) (name : String) :
    p.Exports name ↔ q.Exports name :=
  h.exists_mem_iff (C := (·.Exports name)) (D := fun c => c.2.exportedAs = name) fun _ => Iff.rfl

theorem ExportTable.statementFor?_of_rearranges (h : Rearranges p.items q.items) (name : String) :
    (ofProgram p).statementFor? name = (ofProgram q).statementFor? name := by
  ext s
  rw [statementFor?_eq_some, statementFor?_eq_some, Program.exposes_of_rearranges h,
    Program.takes_of_rearranges h]

namespace Extraction

/-- Where the export clauses stand, in which order they name what they export, among how many clauses
of one source it is parted and how often it is said: nothing of this shows in an extraction, but for the
order of the exported names. -/
theorem ofProgram_of_rearranges (h : Rearranges p.items q.items) :
    (ofProgram q).symbols = (ofProgram p).symbols ∧
      (ofProgram q).declarations = (ofProgram p).declarations ∧
      (ofProgram q).statements = (ofProgram p).statements ∧
      ∀ name, name ∈ (ofProgram q).exported.names ↔ name ∈ (ofProgram p).exported.names := by
  have hb : q.bindings = p.bindings := h.bindings_eq.symm
  have hs (d : Declaration) : (ExportTable.ofProgram q).statementFor? d.name =
      (ExportTable.ofProgram p).statementFor? d.name :=
    (ExportTable.statementFor?_of_rearranges h d.name).symm
  refine ⟨?_, ?_, ?_, ?_⟩
  · rw [SymbolSet.eq_iff, symbols_ofProgram, symbols_ofProgram, hb]
  · rw [declarations_ofProgram, declarations_ofProgram, hb]
    simp only [hs]
  · rw [statements_ofProgram, statements_ofProgram, hb]
    simp only [hs]
  · intro name
    rw [exported_ofProgram, exported_ofProgram, ExportTable.mem_names_ofProgram,
      ExportTable.mem_names_ofProgram, Program.exports_of_rearranges h]

/-- A clause after two names, of which it exports each under the name of the other. -/
def clauseAtEnd : Program :=
  ⟨[.declares ⟨"a", .variable, false, ⟨6, 7, 1, 7⟩⟩,
    .declares ⟨"b", .variable, false, ⟨18, 19, 2, 7⟩⟩,
    .exports ⟨[⟨"a", "b"⟩, ⟨"b", "a"⟩, ⟨"a", "a"⟩], none, ⟨24, 50, 3, 1⟩⟩], ⟨0, 51, 1, 1⟩⟩

/-- Its last specifier is moved before the names, and the others are swapped and repeated. -/
theorem ofProgram_of_rearranges_clauseAtEnd :
    let own : ExportList := ⟨[⟨"a", "a"⟩], none, ⟨0, 15, 1, 1⟩⟩
    let crossed : ExportList := ⟨[⟨"a", "b"⟩, ⟨"b", "a"⟩, ⟨"a", "b"⟩], none, ⟨40, 70, 4, 1⟩⟩
    let q : Program := ⟨.exports own :: clauseAtEnd.items.take 2 ++ [.exports crossed], ⟨0, 71, 1, 1⟩⟩
    Rearranges clauseAtEnd.items q.items ∧
      (ofProgram clauseAtEnd).statements = [.hidden "b"] ∧
      (ofProgram q).symbols = (ofProgram clauseAtEnd).symbols ∧
      (ofProgram q).declarations = (ofProgram clauseAtEnd).declarations ∧
      (ofProgram q).statements = (ofProgram clauseAtEnd).statements ∧
      (ofProgram q).exported.names ≠ (ofProgram clauseAtEnd).exported.names := by
  intro own crossed q
  let names := clauseAtEnd.items.take 2
  have hpart : Rearranges clauseAtEnd.items (names ++
      .exports ⟨[⟨"a", "b"⟩, ⟨"b", "a"⟩], none, crossed.span⟩ :: [.exports own]) :=
    .part [⟨"a", "b"⟩, ⟨"b", "a"⟩] [⟨"a", "a"⟩] none _ _ _ names []
  have hswap : Rearranges _ (names ++
      .exports ⟨[⟨"b", "a"⟩, ⟨"a", "b"⟩], none, crossed.span⟩ :: [.exports own]) :=
    .reorder (.swap ..) none crossed.span names [.exports own]
  have hrepeat : Rearranges _ (names ++ .exports crossed :: [.exports own]) :=
    .repeatSpecifier (by decide) none crossed.span names [.exports own]
  have hmove : Rearranges q.items (names ++ .exports crossed :: [.exports own]) :=
    .move own [] (names ++ [Item.exports crossed]) []
  have h : Rearranges clauseAtEnd.items q.items :=
    ((hpart.trans hswap).trans hrepeat).trans hmove.symm
  obtain ⟨h1, h2, h3, -⟩ := ofProgram_of_rearranges h
  exact ⟨h, by decide, h1, h2, h3, by decide⟩

end Extraction
end TypeScriptRepl
