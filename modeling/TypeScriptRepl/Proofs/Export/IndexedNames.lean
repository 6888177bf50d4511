import Std.Data.HashSet.Lemmas
import Mathlib.Data.List.Induction
import Mathlib.Data.List.Basic
import TypeScriptRepl.Export.IndexedNames
import TypeScriptRepl.Proofs.Export.Table

/-! Names that are held with an index are a set of symbols, whatever has been done to them. -/
namespace TypeScriptRepl

namespace SymbolSet

theorem ofList_concat (names : List String) (name : String) :
    ofList (names ++ [name]) = (ofList names).insert name := by
  rw [ofList, ofList, List.foldl_concat]

theorem names_ofList (names : List String) : (ofList names).names = names.eraseDups := by
  induction names using List.reverseRecOn with
  | nil => rfl
  | append_singleton names name ih =>
    rw [ofList_concat, names_insert, ih, List.eraseDups_append]
    by_cases h : name ∈ names
    · rw [if_pos (List.mem_eraseDups.2 h)]
      simp [List.removeAll, h]
    · rw [if_neg (fun hm => h (List.mem_eraseDups.1 hm))]
      simp [List.removeAll, List.eraseDups_cons, h]

theorem eraseDups_of_nodup {names : List String} (h : names.Nodup) : names.eraseDups = names := by
  induction names with
  | nil => rfl
  | cons name names ih =>
    obtain ⟨hn, h⟩ := List.nodup_cons.1 h
    have hothers : names.filter (fun other => !other == name) = names := by
      refine List.filter_eq_self.2 fun other hm => ?_
      simpa using fun ho : other = name => hn (ho ▸ hm)
    rw [List.eraseDups_cons, hothers, ih h]

/-- A set is made from its own names again. -/
theorem ofList_names (t : SymbolSet) : ofList t.names = t := by
  rw [eq_iff, names_ofList, eraseDups_of_nodup t.nodup]

theorem mem_ofList (names : List String) (name : String) :
    name ∈ (ofList names).names ↔ name ∈ names := by
  rw [names_ofList, List.mem_eraseDups]

end SymbolSet

namespace IndexedNames

/-- The set `t` is held as `s`: with its names in their order, and an index that finds these names and
no others. -/
structure Holds (s : IndexedNames) (t : SymbolSet) : Prop where
  names_eq : s.names = t.names
  mem_index : ∀ name, name ∈ s.index ↔ name ∈ t.names

/-- What can be done to names that are held: one is inserted, or others are collected in their place. -/
inductive Operation where
  | insert (name : String)
  | collect (names : List String)

namespace Operation

def apply (s : IndexedNames) : Operation → IndexedNames
  | insert name => (s.insert name).2
  | collect names => ofList names

/-- All names that were inserted, in their order, if there were these before. -/
def inserted (names : List String) : Operation → List String
  | insert name => names ++ [name]
  | collect names => names

end Operation

def run (ops : List Operation) : IndexedNames := ops.foldl Operation.apply empty

def inserted (ops : List Operation) : List String := ops.foldl Operation.inserted []

variable {s s' : IndexedNames} {t t' : SymbolSet}

theorem holds_empty : empty.Holds .empty := ⟨rfl, fun name => by simp [empty]⟩

namespace Holds

theorem contains_iff (h : s.Holds t) (name : String) : s.contains name = true ↔ name ∈ t.names := by
  rw [contains, Std.HashSet.contains_iff_mem, h.mem_index]

theorem added_iff (h : s.Holds t) (name : String) : (s.insert name).1 = true ↔ name ∉ t.names := by
  rw [IndexedNames.insert, ← h.contains_iff]
  split <;> simp_all

theorem insert_of_mem (h : s.Holds t) {name : String} (hn : name ∈ t.names) :
    s.insert name = (false, s) :=
  if_pos ((h.contains_iff name).2 hn)

theorem insert_of_notMem (h : s.Holds t) {name : String} (hn : name ∉ t.names) :
    s.insert name = (true, ⟨s.names ++ [name], s.index.insert name⟩) :=
  if_neg fun hc => hn ((h.contains_iff name).1 hc)

/-- To insert a name keeps the names and the index in step. -/
theorem insert (h : s.Holds t) (name : String) : (s.insert name).2.Holds (t.insert name) := by
  by_cases hn : name ∈ t.names
  · have ht : t.insert name = t := dif_pos hn
    rw [h.insert_of_mem hn, ht]
    exact h
  · rw [h.insert_of_notMem hn]
    constructor
    · rw [t.names_insert, if_neg hn, h.names_eq]
    · intro other
      rw [SymbolSet.mem_names_insert, Std.HashSet.mem_insert, h.mem_index, beq_iff_eq, or_comm]

theorem foldl (h : s.Holds t) (names : List String) :
    (names.foldl (fun s name => (s.insert name).2) s).Holds (names.foldl SymbolSet.insert t) := by
  induction names generalizing s t with
  | nil => exact h
  | cons name names ih => exact ih (h.insert name)

/-- Of what is held, the names alone tell whether it is the same. -/
theorem beq_iff (h : s.Holds t) (h' : s'.Holds t') : (s == s') = true ↔ s.names = s'.names := by
  rw [beq_eq, Bool.and_eq_true, beq_iff_eq, and_iff_left_iff_imp]
  intro hn
  refine Std.HashSet.Equiv.beq (Std.HashSet.Equiv.of_forall_mem_iff fun name => ?_)
  rw [h.mem_index, h'.mem_index, ← h.names_eq, ← h'.names_eq, hn]

end Holds

theorem holds_ofList (names : List String) : (ofList names).Holds (.ofList names) :=
  holds_empty.foldl names

/-- An operation keeps what is held and what has been inserted in step. -/
theorem holds_apply {names : List String} (h : s.Holds (.ofList names)) (o : Operation) :
    (o.apply s).Holds (.ofList (o.inserted names)) := by
  cases o with
  | insert name =>
    rw [Operation.inserted, SymbolSet.ofList_concat]
    exact h.insert name
  | collect others => exact holds_ofList others

/-- After any operations, the set of all names that were inserted is held. -/
theorem holds_run (ops : List Operation) : (run ops).Holds (.ofList (inserted ops)) := by
  induction ops using List.reverseRecOn with
  | nil => exact holds_empty
  | append_singleton ops o ih =>
    rw [run, inserted, List.foldl_concat, List.foldl_concat]
    exact holds_apply ih o

theorem run_inserts (names : List String) : run (names.map .insert) = ofList names := by
  rw [run, ofList, List.foldl_map]
  rfl

/-- What is held is a set that remembers in which order the names of a history came first. -/
structure RemembersOrder (s : IndexedNames) (history : List String) : Prop where
  nodup : s.names.Nodup
  mem_index : ∀ name, name ∈ s.index ↔ name ∈ s.names
  names_eq : s.names = history.eraseDups
  contains_iff : ∀ name, s.contains name = true ↔ name ∈ s.names
  added_iff : ∀ name, (s.insert name).1 = true ↔ name ∉ history
  added : ∀ name, name ∉ history → (s.insert name).2.names = s.names ++ [name] ∧
    ∀ other, other ∈ (s.insert name).2.index ↔ other ∈ s.index ∨ other = name
  kept : ∀ name, name ∈ history → (s.insert name).2 = s
  recollected : (ofList s.names == s) = true

theorem Holds.remembersOrder {history : List String} (h : s.Holds (.ofList history)) :
    s.RemembersOrder history where
  nodup := by
    rw [h.names_eq]
    exact (SymbolSet.ofList history).nodup
  mem_index name := by rw [h.mem_index, h.names_eq]
  names_eq := by rw [h.names_eq, SymbolSet.names_ofList]
  contains_iff name := by rw [h.contains_iff, h.names_eq]
  added_iff name := by rw [h.added_iff, SymbolSet.mem_ofList]
  added name hn := by
    rw [← SymbolSet.mem_ofList] at hn
    rw [h.insert_of_notMem hn]
    exact ⟨rfl, fun other => by rw [Std.HashSet.mem_insert, beq_iff_eq, or_comm, eq_comm]⟩
  kept name hn := by rw [h.insert_of_mem ((SymbolSet.mem_ofList history name).2 hn)]
  recollected := by
    have hown := holds_ofList s.names
    rw [hown.beq_iff h, hown.names_eq, h.names_eq, SymbolSet.ofList_names]

/-- Whatever is done, the names are an ordered set of all that were inserted; to collect names leaves
what it leaves to insert them one by one; and what is held is the same if and only if the names are. -/
theorem run_remembersOrder (ops : List Operation) :
    (run ops).RemembersOrder (inserted ops) ∧
    (run ops).Holds (.ofList (inserted ops)) ∧
    (∀ names, run (ops ++ [.collect names]) = run (names.map .insert)) ∧
    ∀ ops', (run ops == run ops') = true ↔ (run ops).names = (run ops').names := by
  refine ⟨(holds_run ops).remembersOrder, holds_run ops, fun names => ?_, fun ops' => ?_⟩
  · rw [run_inserts, run, List.foldl_concat]
    rfl
  · exact (holds_run ops).beq_iff (holds_run ops')

end IndexedNames
end TypeScriptRepl
