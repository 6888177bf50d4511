/-! Reading tables of fixed-width fields that are packed into natural numbers. -/
namespace TypeScriptRepl.Grammar.Packed

/-- Entry `i` of a table that is kept in blocks of 128 words. -/
def word (blocks : Array (Array Nat)) (i : Nat) : Nat :=
  ((blocks[i / 128]?.getD #[])[i % 128]?).getD 0

/-- The `width` bits of `w` from bit `start`. -/
def bits (w start width : Nat) : Nat := (w >>> start) % (1 <<< width)

private def split (width : Nat) : Nat → Nat → List Nat
  | 0, _ => []
  | fuel + 1, w => if w = 0 then [] else w % (1 <<< width) :: split width fuel (w >>> width)

/-- The fields of `width` bits in `w`, lowest first, up to the last that is not zero. -/
def fields (width w : Nat) : List Nat := split width (w.log2 / width + 1) w

private def search (width : Nat) (p : Nat → Bool) : Nat → Nat → Option Nat
  | 0, _ => none
  | fuel + 1, w =>
    if w = 0 then none
    else
      let f := w % (1 <<< width)
      if p f then some f else search width p fuel (w >>> width)

/-- The first of the fields that satisfies `p`. -/
def find? (width w : Nat) (p : Nat → Bool) : Option Nat := search width p (w.log2 / width + 1) w

theorem find?_eq (width w : Nat) (p : Nat → Bool) : find? width w p = (fields width w).find? p := by
  unfold find? fields
  generalize w.log2 / width + 1 = fuel
  induction fuel generalizing w with
  | zero => rfl
  | succ fuel ih =>
    by_cases hw : w = 0
    · simp [search, split, hw]
    · by_cases hp : p (w % (1 <<< width))
      · simp [search, split, hw, hp]
      · simpa [search, split, hw, hp] using ih _

end TypeScriptRepl.Grammar.Packed
