import TypeScriptRepl.Toml.Item

/-! Tables: what keys and headers add to them, and what they must not add. -/
namespace TypeScriptRepl.Toml

/-- Why a key or a header has no place. `within` is the path of the table that has the key already, if
this is told. -/
inductive Conflict where
  | duplicate (name : String) (within : Option (List String))
  | notATable (path : List String) (found : String)
deriving Repr, DecidableEq, Inhabited

def Conflict.message : Conflict → String
  | duplicate name none => "duplicate key `" ++ name ++ "`"
  | duplicate name (some []) => "duplicate key `" ++ name ++ "` in document root"
  | duplicate name (some path) =>
    "duplicate key `" ++ name ++ "` in table `" ++ ".".intercalate path ++ "`"
  | notATable path found =>
    "dotted key `" ++ ".".intercalate path ++ "` attempted to extend non-table type (" ++ found ++ ")"

namespace Table

def names (ks : List Key) : List String := ks.map (·.name)

/-- An edit of a table: of its style, its range and its entries. -/
abbrev Edit := TableStyle → Option Range → List (Key × Item) → Except Conflict Item

def edit (f : Edit) : Item → Except Conflict Item
  | .table style range entries => f style range entries
  | i => .error (.notATable [] i.kindName)

/-- Edits the table that a path leads to, and makes the tables on the way that are not there. The last
table of an array stands for the array. A dotted key does not lead through tables with headers of
their own. `before` are the names that led here. -/
def descend (dotted : Bool) (f : Edit) : List Key → List String → Edit
  | [], _ => f
  | k :: ks, before => fun style range entries => do
    let inner := descend dotted f ks (before ++ [k.name])
    match lookup? k.name entries with
    | none =>
      let made ← inner (if dotted then .dotted else .implied) none []
      return .table style range (entries ++ [(k, made)])
    | some (.tables elements) =>
      match elements.getLast? with
      | none => .error (.duplicate k.name none)
      | some last =>
        let last ← edit inner last
        return .table style range (replace k.name (.tables (elements.dropLast ++ [last])) entries)
    | some (.table innerStyle innerRange innerEntries) =>
      if innerStyle = .inline ∧ !dotted then
        .error (.notATable (before ++ [k.name]) "inline table")
      else if dotted ∧ (innerStyle = .header ∨ innerStyle = .inline) then
        .error (.duplicate k.name none)
      else
        let i ← inner innerStyle innerRange innerEntries
        return .table style range (replace k.name i entries)
    | some i => .error (.notATable (before ++ [k.name]) i.kindName)

/-- Puts a value under a key that is dotted if `within` is not empty. -/
def put (dotted : Bool) (k : Key) (v : Item) (known : Option (List String)) : Edit :=
  fun style range entries =>
    if dotted ∧ style ≠ .dotted then .error (.duplicate k.name none)
    else if (lookup? k.name entries).isSome then .error (.duplicate k.name known)
    else .ok (.table style range (entries ++ [(k, v)]))

/-- Puts a value under a key, in the tables that the key is nested in. -/
def insert (ks : List Key) (v : Item) (known : Option (List String)) : Edit :=
  match ks.getLast? with
  | none => fun style range entries => .ok (.table style range entries)
  | some k => descend true (put (1 < ks.length) k v known) ks.dropLast []

def entriesOf : Item → List (Key × Item)
  | .table _ _ entries => entries
  | _ => []

/-- The entries of an inline table with these pairs of keys and values. -/
def ofPairs (pairs : List (List Key × Item)) : Except Conflict (List (Key × Item)) :=
  pairs.foldlM (fun entries (ks, v) => (insert ks v none .inline none entries).map entriesOf) []

end Table
end TypeScriptRepl.Toml
