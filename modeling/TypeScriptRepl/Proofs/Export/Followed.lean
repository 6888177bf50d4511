import TypeScriptRepl.Proofs.Export.Insertion
import TypeScriptRepl.Proofs.Program.Items

/-! Programs that say what another one says, with its statements and more items after it. -/
namespace TypeScriptRepl

def Item.names (is : List Item) : List String := (is.flatMap Item.bindings).map (·.name)

namespace Item

theorem names_append (is js : List Item) : names (is ++ js) = names is ++ names js := by
  simp [names]

theorem exposes_unplaced (i : Item) (name : String) : i.unplaced.Exposes name ↔ i.Exposes name := by
  cases i <;> rfl

theorem names_unplaced (is : List Item) : names (is.map Item.unplaced) = names is := by
  have hi (i : Item) : i.unplaced.bindings.map (·.name) = i.bindings.map (·.name) := by
    cases i with
    | imports i => simp [unplaced, bindings, ImportBinding.unplaced, Function.comp_def]
    | declares d => rfl
    | exports l => rfl
  simp only [names, List.map_flatMap, List.flatMap_map, hi]

theorem names_clauses (ss : List ExportStatement) : names (ss.map (·.clause default)) = [] := by
  simp [names, ExportStatement.clause, bindings]

end Item

variable {p q : Program}

theorem Program.exposes_iff_unplaced (name : String) :
    p.Exposes name ↔ ∃ i ∈ p.items.map Item.unplaced, i.Exposes name := by
  constructor
  · rintro ⟨i, hi, he⟩
    exact ⟨i.unplaced, List.mem_map_of_mem hi, (i.exposes_unplaced name).2 he⟩
  · rintro ⟨_, hu, he⟩
    obtain ⟨i, hi, rfl⟩ := List.mem_map.1 hu
    exact ⟨i, hi, (i.exposes_unplaced name).1 he⟩

theorem ExportTable.ofProgram_congr (h : p.items.map Item.unplaced = q.items.map Item.unplaced) :
    ofProgram p = ofProgram q := by
  have ha (t : ExportTable) (i : Item) : t.addItem i.unplaced = t.addItem i := by
    cases i <;> rfl
  have hf (is : List Item) : (is.map Item.unplaced).foldl addItem empty = is.foldl addItem empty := by
    rw [List.foldl_map]
    simp only [ha]
  rw [ofProgram, ofProgram, ← hf, h, hf]

namespace Extraction

theorem symbols_ofProgram_eq_eraseDups (p : Program) :
    (ofProgram p).symbols.names = (Item.names p.items).eraseDups := by
  rw [symbols_ofProgram, names_firstBindings]
  rfl

theorem statements_ofProgram_eq_filterMap (p : Program) :
    (ofProgram p).statements =
      (ofProgram p).symbols.names.filterMap (ExportTable.ofProgram p).statementFor? := by
  rw [statements_ofProgram, symbols_ofProgram, List.filterMap_map]
  rfl

theorem ofProgram_congr (h : p.items.map Item.unplaced = q.items.map Item.unplaced) :
    (ofProgram p).symbols = (ofProgram q).symbols ∧
      (ofProgram p).statements = (ofProgram q).statements := by
  have hs : (ofProgram p).symbols.names = (ofProgram q).symbols.names := by
    rw [symbols_ofProgram_eq_eraseDups, symbols_ofProgram_eq_eraseDups, ← Item.names_unplaced, h,
      Item.names_unplaced]
  constructor
  · rwa [SymbolSet.eq_iff]
  · rw [statements_ofProgram_eq_filterMap, statements_ofProgram_eq_filterMap, hs,
      ExportTable.ofProgram_congr h]

/-- A name that a program binds is exposed, or there is a statement for it. -/
theorem exposes_or_mem_statements {name : String} (h : name ∈ (ofProgram p).symbols.names) :
    p.Exposes name ∨ ∃ st ∈ (ofProgram p).statements, st.name = name := by
  cases hs : (ExportTable.ofProgram p).statementFor? name with
  | none => exact Or.inl ((ExportTable.statementFor?_eq_none p name).1 hs)
  | some st =>
    have hn := ExportTable.name_of_statementFor? hs
    refine Or.inr ⟨st, (mem_statements_ofProgram p).2 ⟨?_, ?_⟩, hn⟩
    · rwa [hn]
    · rwa [hn]

/-- The names of a program come first in one that goes on after it, and none of them needs a
statement there. -/
theorem ofProgram_followed {more : List Item}
    (h : q.items.map Item.unplaced = p.items.map Item.unplaced ++
      (ofProgram p).statements.map (·.clause default) ++ more) :
    (∃ added, (ofProgram q).symbols.names = (ofProgram p).symbols.names ++ added ∧
      ∀ name ∈ added, name ∈ Item.names more) ∧
    ∀ st ∈ (ofProgram q).statements, st.name ∉ (ofProgram p).symbols.names := by
  constructor
  · have hn : Item.names q.items = Item.names p.items ++ Item.names more := by
      rw [← Item.names_unplaced q.items, h, Item.names_append, Item.names_append,
        Item.names_unplaced, Item.names_clauses, List.append_nil]
    refine ⟨((Item.names more).removeAll (Item.names p.items)).eraseDups, ?_, ?_⟩
    · rw [symbols_ofProgram_eq_eraseDups, symbols_ofProgram_eq_eraseDups, hn, List.eraseDups_append]
    · intro name hm
      rw [List.mem_eraseDups] at hm
      exact (List.mem_filter.1 hm).1
  · intro st hst hm
    have hq : ¬q.Exposes st.name := by
      rw [← ExportTable.statementFor?_eq_none, ((mem_statements_ofProgram q).1 hst).2]
      exact nofun
    apply hq
    rw [Program.exposes_iff_unplaced, h]
    rcases exposes_or_mem_statements hm with hp | ⟨st', hst', hn⟩
    · obtain ⟨i, hi, he⟩ := (Program.exposes_iff_unplaced st.name).1 hp
      exact ⟨i, List.mem_append_left _ (List.mem_append_left _ hi), he⟩
    · refine ⟨st'.clause default, ?_, (st'.clause_exposes default st.name).2 hn⟩
      exact List.mem_append_left _ (List.mem_append_right _ (List.mem_map_of_mem hst'))

end Extraction
end TypeScriptRepl
