/-! How alike two words are. -/
namespace TypeScriptRepl.CommandLine

/-- The first place from `low` to `high` that holds `c` and has not been matched. -/
private def matchFrom (c : Char) (low high : Nat) (b : Array Char) (matched : Array Bool) : Option Nat :=
  (List.range b.size).find? fun j =>
    low ≤ j && j < high && b[j]? = some c && matched[j]? = some false

/-- The characters of `a` that have a match in `b` near their own place, and those of `b` that are one,
each in their order. -/
private def matches_ (a b : Array Char) : List Char × List Char :=
  let reach := max a.size b.size / 2 - 1
  let (found, matched) := (List.range a.size).foldl
    (fun (found, matched) i =>
      match a[i]? with
      | none => (found, matched)
      | some c =>
        match matchFrom c (i - reach) (i + reach + 1) b matched with
        | some j => (c :: found, matched.set! j true)
        | none => (found, matched))
    ([], Array.replicate b.size false)
  (found.reverse, (b.zip matched).toList.filterMap fun (c, m) => if m then some c else none)

/-- From 0 for words that have nothing in common to 1 for equal ones: the mean of the parts of both
words that match, and of the part of the matches that is in order. -/
def similarity (a b : String) : Float :=
  let a := a.toList.toArray
  let b := b.toList.toArray
  if a.isEmpty && b.isEmpty then 1
  else
    let (xs, ys) := matches_ a b
    let m := xs.length
    if m = 0 then 0
    else
      let outOfOrder := ((xs.zip ys).filter fun (x, y) => x ≠ y).length / 2
      (m.toFloat / a.size.toFloat + m.toFloat / b.size.toFloat +
        (m - outOfOrder).toFloat / m.toFloat) / 3

/-- The candidate most like a word, if it is enough like it. Of several, the last one counts. -/
def mostSimilar? (word : String) (candidates : List String) : Option String :=
  (candidates.foldl
    (fun best c =>
      let s := similarity word c
      match best with
      | some (t, _) => if s > 0.7 && s ≥ t then some (s, c) else best
      | none => if s > 0.7 then some (s, c) else none)
    none).map (·.2)

end TypeScriptRepl.CommandLine
