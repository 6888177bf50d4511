import Std.Data.HashSet.Basic
import TypeScriptRepl.Json.Basic

/-!
How a set of names is held: the names in the order in which they came, and an index that finds them.
Nothing but the operations keeps the two in step.
-/
namespace TypeScriptRepl

structure IndexedNames where
  names : List String
  index : Std.HashSet String

namespace IndexedNames

def empty : IndexedNames := ⟨[], ∅⟩

instance : Inhabited IndexedNames := ⟨empty⟩

/-- Both the names and the indexes are compared, the indexes by what they find. -/
instance : BEq IndexedNames := ⟨fun a b => a.names == b.names && a.index.beq b.index⟩

def contains (s : IndexedNames) (name : String) : Bool := s.index.contains name

/-- Adds a name at the end, unless the index finds it, and says whether it has been added. -/
def insert (s : IndexedNames) (name : String) : Bool × IndexedNames :=
  if s.contains name then (false, s) else (true, ⟨s.names ++ [name], s.index.insert name⟩)

/-- Collects the names in a list. -/
def ofList (names : List String) : IndexedNames :=
  names.foldl (fun s name => (s.insert name).2) empty

def size (s : IndexedNames) : Nat := s.names.length

def isEmpty (s : IndexedNames) : Bool := s.names.isEmpty

def toJson (s : IndexedNames) : Json := .ofStrings s.names

theorem beq_eq (s t : IndexedNames) : (s == t) = (s.names == t.names && s.index.beq t.index) := rfl

end IndexedNames
end TypeScriptRepl
