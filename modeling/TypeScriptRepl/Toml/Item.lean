import TypeScriptRepl.Number.Binary64
import TypeScriptRepl.Toml.Fault

/-! What a TOML document holds. -/
namespace TypeScriptRepl.Toml

/-- A name on the left of a value or in a header, and where it stands. -/
structure Key where
  name : String
  range : Range
deriving Repr, DecidableEq, Inhabited

/-- How a table came to be: by its own braces, by its own header, by the header of a table in it, or
by a dotted key. -/
inductive TableStyle where
  | inline
  | header
  | implied
  | dotted
deriving Repr, DecidableEq, Inhabited

/-- Entries of tables are in the order in which they came. A table that nothing stands for as a whole
has no range. -/
inductive Item where
  | string (text : String) (range : Range)
  | integer (n : Int) (range : Range)
  | float (x : Number.Binary64) (range : Range)
  | boolean (b : Bool) (range : Range)
  | datetime (range : Range)
  | array (items : List Item) (range : Range)
  | table (style : TableStyle) (range : Option Range) (entries : List (Key × Item))
  | tables (elements : List Item)
deriving Repr, Inhabited

namespace Item

/-- What kind of item this is, in messages. -/
def kindName : Item → String
  | string .. => "string"
  | integer .. => "integer"
  | float .. => "float"
  | boolean .. => "boolean"
  | datetime .. => "datetime"
  | array .. => "array"
  | table .inline .. => "inline table"
  | table .. => "table"
  | tables .. => "array of tables"

private def ownRange? : Item → Option Range
  | string _ r | integer _ r | float _ r | boolean _ r | datetime r | array _ r => some r
  | table _ r _ => r
  | tables _ => none

/-- Where an item stands. An array of tables stands from its first table to its last one. -/
def range? : Item → Option Range
  | tables elements => do
    return ⟨(← (← elements.head?).ownRange?).start, (← (← elements.getLast?).ownRange?).stop⟩
  | i => i.ownRange?

end Item

/-- The entry of a name. -/
def lookup? (name : String) (entries : List (Key × Item)) : Option Item :=
  (entries.find? (·.1.name = name)).map (·.2)

/-- The entries with another item under a name that they have. -/
def replace (name : String) (i : Item) (entries : List (Key × Item)) : List (Key × Item) :=
  entries.map fun e => if e.1.name = name then (e.1, i) else e

def remove (name : String) (entries : List (Key × Item)) : List (Key × Item) :=
  entries.filter (·.1.name ≠ name)

end TypeScriptRepl.Toml
