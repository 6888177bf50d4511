import TypeScriptRepl.Export.Extraction
import TypeScriptRepl.Proofs.Export.Table

/-! What an extraction holds: each name that a program binds, once, as it is bound first. -/
namespace TypeScriptRepl

theorem Item.bindings_declares (ds : List Declaration) :
    (ds.map Item.declares).flatMap Item.bindings = ds := by
  rw [List.flatMap_map]
  exact List.flatMap_singleton' ds

def firstBindings (ds : List Declaration) : List Declaration :=
  ds.eraseDupsBy fun a b => a.name == b.name

@[simp] theorem firstBindings_nil : firstBindings [] = [] := rfl

theorem firstBindings_cons (d : Declaration) (ds : List Declaration) :
    firstBindings (d :: ds) = d :: firstBindings (ds.filter (·.name ≠ d.name)) := by
  simp only [firstBindings, List.eraseDupsBy_cons]
  congr 3
  funext b
  by_cases h : b.name = d.name <;> simp [h]

/-- An induction that takes the first binding off, and with it all later ones of its name. -/
private theorem firstBindings_induction {P : List Declaration → Prop} (nil : P [])
    (cons : ∀ d ds, P (ds.filter (·.name ≠ d.name)) → P (d :: ds)) : ∀ ds, P ds
  | [] => nil
  | d :: ds => cons d ds (firstBindings_induction nil cons _)
termination_by ds => ds.length
decreasing_by exact Nat.lt_succ_of_le (List.length_filter_le _ _)

theorem names_firstBindings (ds : List Declaration) :
    (firstBindings ds).map (·.name) = (ds.map (·.name)).eraseDups := by
  induction ds using firstBindings_induction with
  | nil => rfl
  | cons d ds ih =>
    have hf : (ds.filter (·.name ≠ d.name)).map (·.name) =
        (ds.map (·.name)).filter (!· == d.name) := by
      rw [List.filter_map]
      congr 2
      funext b
      by_cases h : b.name = d.name <;> simp [h]
    rw [firstBindings_cons, List.map_cons, ih, List.map_cons, List.eraseDups_cons, hf]

theorem firstBindings_sublist (ds : List Declaration) : (firstBindings ds).Sublist ds := by
  induction ds using firstBindings_induction with
  | nil => exact List.Sublist.refl []
  | cons d ds ih =>
    rw [firstBindings_cons]
    exact (ih.trans List.filter_sublist).cons_cons d

/-- Which bindings come first is a matter of their names. -/
theorem firstBindings_map {f : Declaration → Declaration} (hf : ∀ d, (f d).name = d.name)
    (ds : List Declaration) : firstBindings (ds.map f) = (firstBindings ds).map f := by
  induction ds using firstBindings_induction with
  | nil => rfl
  | cons d ds ih =>
    have hc : (ds.map f).filter (·.name ≠ (f d).name) = (ds.filter (·.name ≠ d.name)).map f := by
      simp only [List.filter_map, Function.comp_def, hf]
    rw [List.map_cons, firstBindings_cons, hc, ih, firstBindings_cons, List.map_cons]

theorem find?_of_mem_firstBindings {ds : List Declaration} {d : Declaration}
    (hd : d ∈ firstBindings ds) : ds.find? (·.name = d.name) = some d := by
  induction ds using firstBindings_induction with
  | nil => simp at hd
  | cons a ds ih =>
    rw [firstBindings_cons, List.mem_cons] at hd
    rcases hd with rfl | hd
    · simp
    have hf := ih hd
    have hne : d.name ≠ a.name := by
      simpa using (List.mem_filter.1 (List.mem_of_find?_eq_some hf)).2
    rw [List.find?_filter] at hf
    rw [List.find?_cons_of_neg (by simpa using hne.symm), ← hf]
    congr 1
    funext b
    grind

namespace Extraction

/-- What a fold of `record` adds: the first binding of each name that was not there before. -/
private theorem foldl_record (t : ExportTable) (ds : List Declaration) (e : Extraction) :
    let new := firstBindings (ds.filter (·.name ∉ e.symbols.names))
    let r := ds.foldl (record t) e
    r.declarations =
        e.declarations ++ new.map (fun d => { d with exported := (t.statementFor? d.name).isNone }) ∧
      r.statements = e.statements ++ new.filterMap (fun d => t.statementFor? d.name) ∧
      r.symbols.names = e.symbols.names ++ new.map (·.name) ∧ r.exported = e.exported := by
  induction ds generalizing e with
  | nil => simp
  | cons d ds ih =>
    simp only [List.foldl_cons]
    by_cases hd : d.name ∈ e.symbols.names
    · have hr : record t e d = e := by simp [record, SymbolSet.contains, hd]
      rw [hr, List.filter_cons_of_neg (by simpa using hd)]
      exact ih e
    · have hs : (record t e d).symbols.names = e.symbols.names ++ [d.name] := by
        simp [record, SymbolSet.contains, hd, SymbolSet.names_insert]
      have hf : ds.filter (·.name ∉ (record t e d).symbols.names) =
          (ds.filter (·.name ∉ e.symbols.names)).filter (·.name ≠ d.name) := by
        rw [hs, List.filter_filter]
        congr 1
        funext b
        grind
      obtain ⟨h1, h2, h3, h4⟩ := ih (record t e d)
      rw [hf] at h1 h2 h3
      rw [List.filter_cons_of_pos (by simpa using hd), firstBindings_cons]
      refine ⟨?_, ?_, ?_, ?_⟩
      · rw [h1]
        simp [record, SymbolSet.contains, hd]
      · rw [h2]
        cases hst : t.statementFor? d.name <;> simp [record, SymbolSet.contains, hd, hst]
      · rw [h3, hs]
        simp
      · rw [h4]
        simp [record, SymbolSet.contains, hd]

variable (p : Program)

private theorem ofProgram_parts :
    let t := ExportTable.ofProgram p
    let e := ofProgram p
    e.declarations = (firstBindings p.bindings).map
        (fun d => { d with exported := (t.statementFor? d.name).isNone }) ∧
      e.statements = (firstBindings p.bindings).filterMap (fun d => t.statementFor? d.name) ∧
      e.symbols.names = (firstBindings p.bindings).map (·.name) ∧ e.exported = t.names := by
  have hf : p.bindings.filter (·.name ∉ SymbolSet.empty.names) = p.bindings :=
    List.filter_eq_self.2 (by simp)
  have h := foldl_record (ExportTable.ofProgram p) p.bindings
    ⟨[], (ExportTable.ofProgram p).names, [], .empty⟩
  simp only [hf] at h
  simp only [SymbolSet.names_empty, List.nil_append] at h
  exact h

theorem declarations_ofProgram :
    (ofProgram p).declarations = (firstBindings p.bindings).map fun d =>
      { d with exported := ((ExportTable.ofProgram p).statementFor? d.name).isNone } :=
  (ofProgram_parts p).1

theorem statements_ofProgram :
    (ofProgram p).statements = (firstBindings p.bindings).filterMap fun d =>
      (ExportTable.ofProgram p).statementFor? d.name :=
  (ofProgram_parts p).2.1

theorem symbols_ofProgram :
    (ofProgram p).symbols.names = (firstBindings p.bindings).map (·.name) :=
  (ofProgram_parts p).2.2.1

theorem exported_ofProgram : (ofProgram p).exported = (ExportTable.ofProgram p).names :=
  (ofProgram_parts p).2.2.2

theorem names_declarations_ofProgram :
    (ofProgram p).declarations.map (·.name) = (ofProgram p).symbols.names := by
  rw [declarations_ofProgram, symbols_ofProgram, List.map_map]
  rfl

theorem mem_declarations_ofProgram {d : Declaration} :
    d ∈ (ofProgram p).declarations ↔
      ∃ b ∈ firstBindings p.bindings,
        { b with exported := ((ExportTable.ofProgram p).statementFor? b.name).isNone } = d := by
  rw [declarations_ofProgram, List.mem_map]

theorem isInternal_symbol {p : Program} (hb : ∀ d ∈ p.bindings, isInternal d.name = false)
    {name : String} (hn : name ∈ (ofProgram p).symbols.names) : isInternal name = false := by
  rw [symbols_ofProgram, names_firstBindings, List.mem_eraseDups] at hn
  obtain ⟨d, hd, rfl⟩ := List.mem_map.1 hn
  exact hb d hd

/-- A statement is for a binding that is not exposed, so names of the two agree one by one. -/
theorem names_statements_ofProgram :
    (ofProgram p).statements.map (·.name) =
      ((ofProgram p).declarations.filter fun d => !d.exported).map (·.name) := by
  rw [statements_ofProgram, declarations_ofProgram, List.filter_map, List.map_map]
  induction firstBindings p.bindings with
  | nil => rfl
  | cons d ds ih =>
    cases hs : (ExportTable.ofProgram p).statementFor? d.name with
    | none => simpa [List.filterMap_cons, List.filter_cons, hs] using ih
    | some s =>
      have hn := ExportTable.name_of_statementFor? hs
      simpa [List.filterMap_cons, List.filter_cons, hs, hn] using ih

theorem mem_statements_ofProgram {s : ExportStatement} :
    s ∈ (ofProgram p).statements ↔ s.name ∈ (ofProgram p).symbols.names ∧
      (ExportTable.ofProgram p).statementFor? s.name = some s := by
  rw [statements_ofProgram, symbols_ofProgram, List.mem_filterMap]
  constructor
  · rintro ⟨d, hd, hs⟩
    have hn := ExportTable.name_of_statementFor? hs
    exact ⟨hn ▸ List.mem_map_of_mem hd, hn ▸ hs⟩
  · rintro ⟨hm, hs⟩
    obtain ⟨d, hd, hn⟩ := List.mem_map.1 hm
    exact ⟨d, hd, hn ▸ hs⟩

/-- Nothing is lost and nothing comes twice: what is recorded of a name is its first binding, and
whether the name can be reached depends on the whole program. -/
theorem ofProgram_records_each_name_once :
    (ofProgram p).symbols.names = (p.bindings.map (·.name)).eraseDups ∧
      (ofProgram p).declarations.map (·.name) = (ofProgram p).symbols.names ∧
      (∀ d ∈ (ofProgram p).declarations, ∃ b, p.bindings.find? (·.name = d.name) = some b ∧
        d.kind = b.kind ∧ d.span = b.span) ∧
      (ofProgram p).statements.map (·.name) =
        ((ofProgram p).declarations.filter fun d => !d.exported).map (·.name) ∧
      ∀ d ∈ (ofProgram p).declarations, d.exported = true ↔ p.Exposes d.name := by
  refine ⟨?_, names_declarations_ofProgram p, ?_, names_statements_ofProgram p, ?_⟩
  · rw [symbols_ofProgram, names_firstBindings]
  · intro d hd
    obtain ⟨b, hb, rfl⟩ := (mem_declarations_ofProgram p).1 hd
    exact ⟨b, find?_of_mem_firstBindings hb, rfl, rfl⟩
  · intro d hd
    obtain ⟨b, -, rfl⟩ := (mem_declarations_ofProgram p).1 hd
    rw [Option.isNone_iff_eq_none, ExportTable.statementFor?_eq_none]

end Extraction
end TypeScriptRepl
