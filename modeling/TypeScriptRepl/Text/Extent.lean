/-! Distances in a text, counted at once in characters, bytes, rows and byte columns. -/
namespace TypeScriptRepl.Text

/-- `columns` counts the bytes after the last line feed. -/
structure Extent where
  chars : Nat
  bytes : Nat
  rows : Nat
  columns : Nat
deriving Repr, DecidableEq, Inhabited

namespace Extent

def zero : Extent := ⟨0, 0, 0, 0⟩

/-- The extent of a text of extent `a` followed by one of extent `b`. -/
def add (a b : Extent) : Extent :=
  ⟨a.chars + b.chars, a.bytes + b.bytes, a.rows + b.rows,
    if b.rows = 0 then a.columns + b.columns else b.columns⟩

/-- What is left of a text of extent `a` after a beginning of extent `b`. -/
def sub (a b : Extent) : Extent :=
  if a.bytes < b.bytes then zero
  else ⟨a.chars - b.chars, a.bytes - b.bytes, a.rows - b.rows,
    if b.rows < a.rows then a.columns else a.columns - b.columns⟩

instance : Add Extent := ⟨add⟩
instance : Sub Extent := ⟨sub⟩

/-- The extent of a text of extent `p` followed by `c`. -/
def push (p : Extent) (c : Char) : Extent :=
  if c = '\n' then ⟨p.chars + 1, p.bytes + 1, p.rows + 1, 0⟩
  else ⟨p.chars + 1, p.bytes + c.utf8Size, p.rows, p.columns + c.utf8Size⟩

def ofList (cs : List Char) : Extent := cs.foldl push zero

end Extent
end TypeScriptRepl.Text
