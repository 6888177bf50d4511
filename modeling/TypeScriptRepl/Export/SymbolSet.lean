import TypeScriptRepl.Json.Basic

/-! Sets of names that remember in which order the names came. -/
namespace TypeScriptRepl

structure SymbolSet where
  names : List String
  nodup : names.Nodup

namespace SymbolSet

instance : DecidableEq SymbolSet := fun a b =>
  decidable_of_iff (a.names = b.names) ⟨fun h => by cases a; cases b; simp_all, fun h => h ▸ rfl⟩

def empty : SymbolSet := ⟨[], .nil⟩

instance : Inhabited SymbolSet := ⟨empty⟩

def contains (s : SymbolSet) (name : String) : Bool := s.names.contains name

/-- Adds a name at the end, unless the set has it. -/
def insert (s : SymbolSet) (name : String) : SymbolSet :=
  if h : name ∈ s.names then s
  else
    ⟨s.names ++ [name], List.nodup_append.2
      ⟨s.nodup, List.nodup_cons.2 ⟨List.not_mem_nil, .nil⟩, fun _ ha _ hb hab =>
        h (List.mem_singleton.1 hb ▸ hab ▸ ha)⟩⟩

/-- The set of the names in a list, in the order of their first occurrences. -/
def ofList (names : List String) : SymbolSet := names.foldl insert empty

def size (s : SymbolSet) : Nat := s.names.length

def isEmpty (s : SymbolSet) : Bool := s.names.isEmpty

def toJson (s : SymbolSet) : Json := .ofStrings s.names

@[simp] theorem names_empty : empty.names = [] := rfl

theorem names_insert (s : SymbolSet) (name : String) :
    (s.insert name).names = if name ∈ s.names then s.names else s.names ++ [name] := by
  unfold insert
  split <;> simp_all

theorem contains_iff (s : SymbolSet) (name : String) : s.contains name ↔ name ∈ s.names := by
  simp [contains]

end SymbolSet
end TypeScriptRepl
