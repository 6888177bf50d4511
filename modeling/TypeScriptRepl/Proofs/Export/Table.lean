import TypeScriptRepl.Export.Table

/-! What the export table of a program holds, in terms of the items of the program. -/
namespace TypeScriptRepl

def isInternal (name : String) : Bool := internalPrefix.toList.isPrefixOf name.toList

theorem isInternal_internalName (name : String) : isInternal (internalName name) = true := by
  simp [isInternal, internalName]

theorem internalName_injective {a b : String} (h : internalName a = internalName b) : a = b := by
  have hl : internalPrefix.toList ++ a.toList = internalPrefix.toList ++ b.toList := by
    simpa only [internalName, String.toList_append] using congrArg String.toList h
  exact String.toList_injective (List.append_cancel_left hl)

/-- A specifier makes a name reachable by exporting it as itself or as its internal name, or, in a
clause that passes exports of another module on, by claiming it. -/
def ExportSpecifier.Exposes (reexport : Bool) (s : ExportSpecifier) (name : String) : Prop :=
  if reexport then s.exportedAs = name
  else s.name = name ∧ (s.exportedAs = name ∨ s.exportedAs = internalName name)

def ExportSpecifier.Takes (reexport : Bool) (s : ExportSpecifier) (name : String) : Prop :=
  reexport = false ∧ s.exportedAs = name ∧ s.name ≠ name ∧ isInternal name = false

namespace Item

def Exposes : Item → String → Prop
  | .imports _, _ => False
  | .declares d, name => d.exported = true ∧ d.name = name
  | .exports l, name => ∃ s ∈ l.specifiers, s.Exposes l.isReexport name

def Takes : Item → String → Prop
  | .exports l, name => ∃ s ∈ l.specifiers, s.Takes l.isReexport name
  | _, _ => False

/-- Whether importers see a name because of the item. -/
def Exports : Item → String → Prop
  | .imports _, _ => False
  | .declares d, name => d.exported = true ∧ d.name = name
  | .exports l, name => ∃ s ∈ l.specifiers, s.exportedAs = name

end Item

namespace Program

def Exposes (p : Program) (name : String) : Prop := ∃ i ∈ p.items, i.Exposes name

def Takes (p : Program) (name : String) : Prop := ∃ i ∈ p.items, i.Takes name

def Exports (p : Program) (name : String) : Prop := ∃ i ∈ p.items, i.Exports name

end Program

/-- An export under a name that is not internal exposes the name or takes it. -/
theorem Program.exposes_or_takes_of_exports {p : Program} {name : String}
    (h : p.Exports name) (hi : isInternal name = false) : p.Exposes name ∨ p.Takes name := by
  obtain ⟨i, hmem, h⟩ := h
  cases i with
  | imports i => exact h.elim
  | declares d => exact Or.inl ⟨_, hmem, h⟩
  | exports l =>
    obtain ⟨s, hs, rfl⟩ := h
    cases hr : l.isReexport with
    | true => exact Or.inl ⟨_, hmem, s, hs, by simp [ExportSpecifier.Exposes, hr]⟩
    | false =>
      by_cases hn : s.name = s.exportedAs
      · exact Or.inl ⟨_, hmem, s, hs, by simp [ExportSpecifier.Exposes, hr, hn]⟩
      · exact Or.inr ⟨_, hmem, s, hs, hr, rfl, hn, hi⟩

theorem SymbolSet.eq_iff (s t : SymbolSet) : s = t ↔ s.names = t.names := by
  cases s
  cases t
  simp

theorem SymbolSet.mem_names_insert (s : SymbolSet) (a name : String) :
    name ∈ (s.insert a).names ↔ name ∈ s.names ∨ a = name := by
  rw [names_insert]
  split
  case isTrue ha =>
    constructor
    · exact Or.inl
    · rintro (h | rfl)
      · exact h
      · exact ha
  case isFalse => simp [eq_comm]

namespace ExportTable

/-- A property of a table that every step adds a condition to holds after all steps if it held
before, or if the condition of one of them holds. -/
private theorem foldl_iff {α : Type} {f : ExportTable → α → ExportTable} (P : ExportTable → Prop)
    {C : α → Prop} (hf : ∀ t a, P (f t a) ↔ P t ∨ C a) (as : List α) (t : ExportTable) :
    P (as.foldl f t) ↔ P t ∨ ∃ a ∈ as, C a := by
  induction as generalizing t with
  | nil => simp
  | cons a as ih => simp only [List.foldl_cons, ih, hf, List.mem_cons, exists_eq_or_imp, or_assoc]

private theorem addSpecifier_internal (t : ExportTable) {s : ExportSpecifier}
    (hs : s.name ≠ s.exportedAs) (hi : isInternal s.exportedAs = true) :
    addSpecifier false t s =
      ⟨t.names.insert s.exportedAs,
        if s.exportedAs = internalName s.name then s.name :: t.exposed else t.exposed, t.taken⟩ := by
  unfold isInternal at hi
  unfold addSpecifier
  grind

private theorem addSpecifier_renamed (t : ExportTable) {s : ExportSpecifier}
    (hs : s.name ≠ s.exportedAs) (hi : isInternal s.exportedAs = false) :
    addSpecifier false t s =
      ⟨t.names.insert s.exportedAs, t.exposed, s.exportedAs :: t.taken⟩ := by
  unfold isInternal at hi
  unfold addSpecifier
  grind

theorem mem_exposed_addSpecifier (r : Bool) (t : ExportTable) (s : ExportSpecifier)
    (name : String) :
    name ∈ (addSpecifier r t s).exposed ↔ name ∈ t.exposed ∨ s.Exposes r name := by
  cases r with
  | true => simp [addSpecifier, ExportSpecifier.Exposes, or_comm, eq_comm]
  | false =>
    simp only [ExportSpecifier.Exposes, Bool.false_eq_true, if_false]
    by_cases hs : s.name = s.exportedAs
    · simp only [addSpecifier, Bool.false_eq_true, if_false, hs, if_true, List.mem_cons]
      grind
    cases hi : isInternal s.exportedAs with
    | true =>
      rw [addSpecifier_internal t hs hi]
      by_cases hn : s.exportedAs = internalName s.name
      · simp only [hn, if_true, List.mem_cons]
        grind
      · simp only [hn, if_false]
        grind
    | false =>
      have hn : s.exportedAs ≠ internalName s.name := by
        intro hn
        rw [hn, isInternal_internalName] at hi
        cases hi
      rw [addSpecifier_renamed t hs hi]
      grind

theorem mem_taken_addSpecifier (r : Bool) (t : ExportTable) (s : ExportSpecifier)
    (name : String) :
    name ∈ (addSpecifier r t s).taken ↔ name ∈ t.taken ∨ s.Takes r name := by
  cases r with
  | true => simp [addSpecifier, ExportSpecifier.Takes]
  | false =>
    simp only [ExportSpecifier.Takes, true_and]
    by_cases hs : s.name = s.exportedAs
    · simp only [addSpecifier, Bool.false_eq_true, if_false, hs, if_true]
      grind
    cases hi : isInternal s.exportedAs with
    | true =>
      rw [addSpecifier_internal t hs hi]
      grind
    | false =>
      rw [addSpecifier_renamed t hs hi, List.mem_cons]
      grind

theorem mem_names_addSpecifier (r : Bool) (t : ExportTable) (s : ExportSpecifier)
    (name : String) :
    name ∈ (addSpecifier r t s).names.names ↔ name ∈ t.names.names ∨ s.exportedAs = name := by
  have hn : (addSpecifier r t s).names = t.names.insert s.exportedAs := by
    unfold addSpecifier
    grind
  rw [hn, SymbolSet.mem_names_insert]

theorem mem_exposed_addItem (t : ExportTable) (i : Item) (name : String) :
    name ∈ (t.addItem i).exposed ↔ name ∈ t.exposed ∨ i.Exposes name := by
  cases i with
  | imports i => simp [addItem, Item.Exposes]
  | declares d => cases hd : d.exported <;> simp [addItem, Item.Exposes, hd, or_comm, eq_comm]
  | exports l =>
    exact foldl_iff (name ∈ ·.exposed) (fun t s => mem_exposed_addSpecifier l.isReexport t s name)
      l.specifiers t

theorem mem_taken_addItem (t : ExportTable) (i : Item) (name : String) :
    name ∈ (t.addItem i).taken ↔ name ∈ t.taken ∨ i.Takes name := by
  cases i with
  | imports i => simp [addItem, Item.Takes]
  | declares d => cases hd : d.exported <;> simp [addItem, Item.Takes, hd]
  | exports l =>
    exact foldl_iff (name ∈ ·.taken) (fun t s => mem_taken_addSpecifier l.isReexport t s name)
      l.specifiers t

theorem mem_names_addItem (t : ExportTable) (i : Item) (name : String) :
    name ∈ (t.addItem i).names.names ↔ name ∈ t.names.names ∨ i.Exports name := by
  cases i with
  | imports i => simp [addItem, Item.Exports]
  | declares d =>
    cases hd : d.exported <;> simp [addItem, Item.Exports, hd, SymbolSet.mem_names_insert]
  | exports l =>
    exact foldl_iff (name ∈ ·.names.names) (fun t s => mem_names_addSpecifier l.isReexport t s name)
      l.specifiers t

theorem mem_exposed_ofProgram (p : Program) (name : String) :
    name ∈ (ofProgram p).exposed ↔ p.Exposes name := by
  unfold ofProgram
  rw [foldl_iff (name ∈ ·.exposed) fun t i => mem_exposed_addItem t i name]
  simp [empty, Program.Exposes]

theorem mem_taken_ofProgram (p : Program) (name : String) :
    name ∈ (ofProgram p).taken ↔ p.Takes name := by
  unfold ofProgram
  rw [foldl_iff (name ∈ ·.taken) fun t i => mem_taken_addItem t i name]
  simp [empty, Program.Takes]

theorem mem_names_ofProgram (p : Program) (name : String) :
    name ∈ (ofProgram p).names.names ↔ p.Exports name := by
  unfold ofProgram
  rw [foldl_iff (name ∈ ·.names.names) fun t i => mem_names_addItem t i name]
  simp [empty, Program.Exports]

theorem statementFor?_eq_none (p : Program) (name : String) :
    (ofProgram p).statementFor? name = none ↔ p.Exposes name := by
  rw [← mem_exposed_ofProgram]
  unfold statementFor?
  grind

theorem statementFor?_eq_some (p : Program) (name : String) (s : ExportStatement) :
    (ofProgram p).statementFor? name = some s ↔
      ¬p.Exposes name ∧ ((p.Takes name ∧ s = .hidden name) ∨ (¬p.Takes name ∧ s = .plain name)) := by
  rw [← mem_exposed_ofProgram, ← mem_taken_ofProgram]
  unfold statementFor?
  grind

theorem name_of_statementFor? {t : ExportTable} {name : String} {s : ExportStatement}
    (h : t.statementFor? name = some s) : s.name = name := by
  unfold statementFor? at h
  split at h
  · cases h
  split at h
  · cases h
    rfl
  · cases h
    rfl

end ExportTable
end TypeScriptRepl
