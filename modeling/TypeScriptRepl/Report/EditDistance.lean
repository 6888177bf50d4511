/-! Words that are like a misspelled one. -/
namespace TypeScriptRepl.Report

/-- Two rows of the table of distances between the beginnings of two words: the last one that is
complete, and one that is being filled in. Until it is filled in, it holds what it held before. -/
structure Rows where
  previous : Array Nat
  current : Array Nat
deriving Repr, DecidableEq, Inhabited

namespace Rows

/-- The rows before the first character, for a second word of length `n`. -/
def start (n : Nat) : Rows := ⟨.range (n + 1), .replicate (n + 1) 0⟩

/-- Fills in what comes after entry `j` of the current row, where the characters `a` and `b` meet:
the least of what a deletion, an insertion and a replacement leave. -/
def fill (a : Char) (r : Rows) (b : Char) (j : Nat) : Rows :=
  let cost := if a = b then 0 else 1
  let entry := min (min (r.previous.getD (j + 1) 0 + 1) (r.current.getD j 0 + 1))
    (r.previous.getD j 0 + cost)
  { r with current := r.current.setIfInBounds (j + 1) entry }

/-- The current row filled in for the character `a`, which `i` characters precede. The rows change
places then. -/
def next (bs : List Char) (r : Rows) (a : Char) (i : Nat) : Rows :=
  let first : Rows := { r with current := r.current.setIfInBounds 0 (i + 1) }
  let filled := bs.zipIdx.foldl (fun r (b, j) => r.fill a b j) first
  ⟨filled.current, filled.previous⟩

end Rows

/-- How many insertions, deletions and replacements of characters lead from one word to another. -/
def editDistance (a b : List Char) : Nat :=
  if a.isEmpty then b.length
  else if b.isEmpty then a.length
  else
    let rows := a.zipIdx.foldl (fun r (c, i) => r.next b c i) (Rows.start b.length)
    rows.previous.getD b.length 0

/-- How many words are suggested. -/
def maxSuggestions : Nat := 3

/-- The candidates within a distance of a word, the nearest first. -/
def suggest (word : String) (candidates : List String) (maxDistance : Nat) : List String :=
  let near := candidates.filterMap fun c =>
    let d := editDistance word.toList c.toList
    if d ≤ maxDistance then some (d, c) else none
  ((near.mergeSort fun x y => decide (x.1 ≤ y.1)).map (·.2)).take maxSuggestions

end TypeScriptRepl.Report
