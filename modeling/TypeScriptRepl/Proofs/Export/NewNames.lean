import Mathlib.Data.List.Nodup
import TypeScriptRepl.Proofs.Export.Extraction

/-! The names under which the statements of an extraction export. -/
namespace TypeScriptRepl.Extraction

section

variable {p : Program}

theorem nodup_names_statements : ((ofProgram p).statements.map (·.name)).Nodup := by
  have hn : ((ofProgram p).declarations.map (·.name)).Nodup := by
    rw [names_declarations_ofProgram]
    exact (ofProgram p).symbols.nodup
  rw [names_statements_ofProgram]
  exact hn.sublist (List.filter_sublist.map _)

/-- A plain statement exports a binding's name and a hidden one an internal name, so that they differ
where no binding has an internal name. -/
theorem eq_of_exportedAs_eq (hb : ∀ d ∈ p.bindings, isInternal d.name = false)
    {s t : ExportStatement} (hs : s ∈ (ofProgram p).statements) (ht : t ∈ (ofProgram p).statements)
    (h : s.specifier.exportedAs = t.specifier.exportedAs) : s = t := by
  have plain_ne_hidden {n m : String} (hn : .plain n ∈ (ofProgram p).statements) :
      n ≠ internalName m := by
    rintro rfl
    have hi := isInternal_symbol hb ((mem_statements_ofProgram p).1 hn).1
    have hm := isInternal_internalName m
    exact Bool.false_ne_true (hi.symm.trans hm)
  cases s with
  | plain n =>
    cases t with
    | plain m => exact congrArg ExportStatement.plain h
    | hidden m => exact absurd h (plain_ne_hidden hs)
  | hidden n =>
    cases t with
    | plain m => exact absurd h.symm (plain_ne_hidden ht)
    | hidden m => exact congrArg ExportStatement.hidden (internalName_injective h)

/-- What is exported under the name of a plain statement would expose the name or take it. -/
theorem not_exports_of_mem_statements (he : ∀ name, p.Exports name → isInternal name = false)
    {s : ExportStatement} (hs : s ∈ (ofProgram p).statements) :
    ¬p.Exports s.specifier.exportedAs := by
  intro h
  have hi := he _ h
  obtain ⟨hexposed, htaken⟩ :=
    (ExportTable.statementFor?_eq_some p s.name s).1 ((mem_statements_ofProgram p).1 hs).2
  cases s with
  | plain n =>
    have hn : ¬p.Takes n := by simpa [ExportStatement.name] using htaken
    rcases Program.exposes_or_takes_of_exports h hi with h | h
    · exact hexposed h
    · exact hn h
  | hidden n =>
    have hm := isInternal_internalName n
    exact Bool.false_ne_true (hi.symm.trans hm)

/-- Where no binding and no export has an internal name, the statements export under names that are
pairwise different and that the module does not export under yet. -/
theorem statements_export_new_names (hb : ∀ d ∈ p.bindings, isInternal d.name = false)
    (he : ∀ name, p.Exports name → isInternal name = false) :
    ((ofProgram p).statements.map (·.specifier.exportedAs)).Nodup ∧
      ∀ s ∈ (ofProgram p).statements, ¬p.Exports s.specifier.exportedAs ∧
        s.specifier.exportedAs ∉ (ofProgram p).exported.names := by
  constructor
  · have hn : (ofProgram p).statements.Nodup := nodup_names_statements.of_map
    exact hn.map_on fun s hs t ht h => eq_of_exportedAs_eq hb hs ht h
  · intro s hs
    have hx := not_exports_of_mem_statements he hs
    refine ⟨hx, ?_⟩
    rwa [exported_ofProgram, ExportTable.mem_names_ofProgram]

end

/-- Two names of which each is exported under another one, the second imported and declared again,
and a name that is passed on. -/
def swappedNames : Program :=
  ⟨[.imports ⟨[⟨"b", ⟨9, 10, 1, 10⟩⟩], ⟨0, 22, 1, 1⟩⟩,
    .declares ⟨"a", .function, false, ⟨32, 33, 2, 10⟩⟩,
    .exports ⟨[⟨"a", "b"⟩, ⟨"b", "c"⟩], none, ⟨40, 65, 3, 1⟩⟩,
    .declares ⟨"b", .variable, false, ⟨70, 71, 4, 5⟩⟩,
    .exports ⟨[⟨"*", "d"⟩], some "m", ⟨73, 95, 5, 1⟩⟩], ⟨0, 95, 1, 1⟩⟩

theorem statements_export_new_names_swappedNames :
    (ofProgram swappedNames).statements = [.hidden "b", .plain "a"] ∧
      (ofProgram swappedNames).exported.names = ["b", "c", "d"] ∧
      ((ofProgram swappedNames).statements.map (·.specifier.exportedAs)).Nodup ∧
      ∀ s ∈ (ofProgram swappedNames).statements, ¬swappedNames.Exports s.specifier.exportedAs := by
  have hb : ∀ d ∈ swappedNames.bindings, isInternal d.name = false := by decide
  have hx : ∀ name ∈ (ofProgram swappedNames).exported.names, isInternal name = false := by decide
  have he : ∀ name, swappedNames.Exports name → isInternal name = false := by
    intro name h
    apply hx
    rwa [exported_ofProgram, ExportTable.mem_names_ofProgram]
  have h := statements_export_new_names hb he
  exact ⟨by decide, by decide, h.1, fun s hs => (h.2 s hs).1⟩

end TypeScriptRepl.Extraction
