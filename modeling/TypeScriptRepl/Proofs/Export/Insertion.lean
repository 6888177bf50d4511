import TypeScriptRepl.Proofs.Export.Extraction

/-! Programs with their export statements put in, wherever these stand. -/
namespace TypeScriptRepl

def ExportStatement.clause (s : ExportStatement) (span : Span) : Item :=
  .exports ⟨[s.specifier], none, span⟩

/-- The second list of items is the first with one clause for each statement put in anywhere. -/
inductive InsertsExports : List ExportStatement → List Item → List Item → Prop where
  | nil (is : List Item) : InsertsExports [] is is
  | cons {s : ExportStatement} {ss : List ExportStatement} {is before after : List Item}
      (span : Span) (rest : InsertsExports ss is (before ++ after)) :
      InsertsExports (s :: ss) is (before ++ s.clause span :: after)

theorem InsertsExports.append (ss : List ExportStatement) (is : List Item)
    (span : ExportStatement → Span) :
    InsertsExports ss is (is ++ ss.map fun s => s.clause (span s)) := by
  induction ss with
  | nil => simpa using InsertsExports.nil is
  | cons s ss ih => exact .cons (span s) ih

namespace ExportStatement

theorem clause_exposes (s : ExportStatement) (span : Span) (name : String) :
    (s.clause span).Exposes name ↔ s.name = name := by
  cases s with
  | plain n =>
    simp [clause, Item.Exposes, ExportSpecifier.Exposes, ExportList.isReexport, specifier,
      ExportStatement.name]
    exact Or.inl
  | hidden n =>
    simp [clause, Item.Exposes, ExportSpecifier.Exposes, ExportList.isReexport, specifier,
      ExportStatement.name]
    rintro rfl
    exact Or.inr rfl

theorem clause_exports (s : ExportStatement) (span : Span) (name : String) :
    (s.clause span).Exports name ↔ s.specifier.exportedAs = name := by
  simp [clause, Item.Exports]

end ExportStatement

namespace InsertsExports

variable {ss : List ExportStatement} {is js : List Item}

/-- A property of some item holds of an old item or of a clause that was put in. -/
theorem exists_mem (h : InsertsExports ss is js) {C : Item → Prop} {D : ExportStatement → Prop}
    (hc : ∀ s span, C (s.clause span) ↔ D s) :
    (∃ i ∈ js, C i) ↔ (∃ i ∈ is, C i) ∨ ∃ s ∈ ss, D s := by
  induction h with
  | nil is => simp
  | @cons s ss is before after span rest ih =>
    have hsplit : (∃ i ∈ before ++ s.clause span :: after, C i) ↔
        D s ∨ ∃ i ∈ before ++ after, C i := by
      rw [← hc s span]
      simp only [List.mem_append, List.mem_cons]
      grind
    rw [hsplit, ih]
    simp only [List.mem_cons, exists_eq_or_imp]
    exact or_left_comm

theorem bindings_eq (h : InsertsExports ss is js) :
    js.flatMap Item.bindings = is.flatMap Item.bindings := by
  induction h with
  | nil is => rfl
  | cons span rest ih =>
    rw [← ih, List.flatMap_append, List.flatMap_append, List.flatMap_cons]
    rfl

end InsertsExports

variable {p q : Program} {ss : List ExportStatement}

theorem Program.exposes_of_insertsExports (h : InsertsExports ss p.items q.items) (name : String) :
    q.Exposes name ↔ p.Exposes name ∨ name ∈ ss.map (·.name) := by
  simpa [Program.Exposes] using
    h.exists_mem fun s span => ExportStatement.clause_exposes s span name

theorem Program.exports_of_insertsExports (h : InsertsExports ss p.items q.items) (name : String) :
    q.Exports name ↔ p.Exports name ∨ name ∈ ss.map (·.specifier.exportedAs) := by
  simpa [Program.Exports] using
    h.exists_mem fun s span => ExportStatement.clause_exports s span name

namespace Extraction

/-- With its statements put in, a program exposes all that it binds. -/
theorem exposes_of_mem_firstBindings (h : InsertsExports (ofProgram p).statements p.items q.items)
    {d : Declaration} (hd : d ∈ firstBindings p.bindings) : q.Exposes d.name := by
  rw [Program.exposes_of_insertsExports h]
  cases hs : (ExportTable.ofProgram p).statementFor? d.name with
  | none => exact Or.inl ((ExportTable.statementFor?_eq_none p d.name).1 hs)
  | some s =>
    right
    rw [names_statements_ofProgram, declarations_ofProgram, List.mem_map]
    refine ⟨_, List.mem_filter.2 ⟨List.mem_map_of_mem hd, ?_⟩, rfl⟩
    simp [hs]

/-- One round of statements is enough, wherever they are put: a second extraction finds the same
names, all of them exported, and nothing to add. -/
theorem ofProgram_insertsExports (h : InsertsExports (ofProgram p).statements p.items q.items) :
    (ofProgram q).statements = [] ∧ (ofProgram q).symbols = (ofProgram p).symbols ∧
      (ofProgram q).declarations =
        (ofProgram p).declarations.map (fun d => { d with exported := true }) ∧
      ∀ name, name ∈ (ofProgram q).exported.names ↔ name ∈ (ofProgram p).exported.names ∨
        name ∈ (ofProgram p).statements.map (·.specifier.exportedAs) := by
  have hb : q.bindings = p.bindings := h.bindings_eq
  have hn : ∀ d ∈ firstBindings p.bindings,
      (ExportTable.ofProgram q).statementFor? d.name = none := fun d hd =>
    (ExportTable.statementFor?_eq_none q d.name).2 (exposes_of_mem_firstBindings h hd)
  refine ⟨?_, ?_, ?_, ?_⟩
  · rw [statements_ofProgram, hb, List.filterMap_eq_nil_iff]
    exact hn
  · rw [SymbolSet.eq_iff, symbols_ofProgram, symbols_ofProgram, hb]
  · rw [declarations_ofProgram, declarations_ofProgram, hb, List.map_map]
    refine List.map_congr_left fun d hd => ?_
    simp [hn d hd]
  · intro name
    rw [exported_ofProgram, exported_ofProgram, ExportTable.mem_names_ofProgram,
      ExportTable.mem_names_ofProgram, Program.exports_of_insertsExports h]

/-- Two names of which the first is exported under the second, and a third that begins as internal
names do. -/
def takenName : Program :=
  ⟨[.declares ⟨"a", .variable, false, ⟨6, 7, 1, 7⟩⟩,
    .declares ⟨"b", .variable, false, ⟨18, 19, 2, 7⟩⟩,
    .exports ⟨[⟨"a", "b"⟩], none, ⟨24, 41, 3, 1⟩⟩,
    .declares ⟨"__ts_repl__b", .function, false, ⟨51, 63, 4, 10⟩⟩], ⟨0, 68, 1, 1⟩⟩

theorem ofProgram_insertsExports_takenName :
    let own (name : String) : Item := .exports ⟨[⟨name, name⟩], none, ⟨0, 0, 1, 1⟩⟩
    let q : Program := ⟨own "a" :: takenName.items.take 2 ++
      .exports ⟨[⟨"b", "__ts_repl__b"⟩], none, ⟨0, 0, 1, 1⟩⟩ :: takenName.items.drop 2 ++
        [own "__ts_repl__b"], takenName.span⟩
    InsertsExports (ofProgram takenName).statements takenName.items q.items ∧
      (ofProgram q).statements = [] ∧ (ofProgram q).symbols = (ofProgram takenName).symbols ∧
      (ofProgram q).declarations =
        (ofProgram takenName).declarations.map fun d => { d with exported := true } := by
  intro own q
  have hs : (ofProgram takenName).statements =
      [.plain "a", .hidden "b", .plain "__ts_repl__b"] := by decide
  have h3 : InsertsExports [.plain "__ts_repl__b"] takenName.items
      (takenName.items.take 2 ++ (takenName.items.drop 2 ++ [own "__ts_repl__b"])) :=
    .append [.plain "__ts_repl__b"] takenName.items fun _ => ⟨0, 0, 1, 1⟩
  have h : InsertsExports (ofProgram takenName).statements takenName.items q.items := by
    rw [hs]
    exact @InsertsExports.cons (.plain "a") _ _ [] _ ⟨0, 0, 1, 1⟩ (.cons ⟨0, 0, 1, 1⟩ h3)
  obtain ⟨h1, h2, h3, -⟩ := ofProgram_insertsExports h
  exact ⟨h, h1, h2, h3⟩

end Extraction
end TypeScriptRepl
