/-!
Binary floating-point numbers of 64 bits: the one nearest to a decimal number, and the shortest
decimal number to which a binary one is nearest.
-/
namespace TypeScriptRepl.Number

/-- A finite number is `mantissa * 2 ^ exponent`, and `-` before it if it is negative. -/
inductive Binary64 where
  | nan
  | infinite (negative : Bool)
  | finite (negative : Bool) (mantissa : Nat) (exponent : Int)
deriving Repr, DecidableEq, Inhabited

namespace Binary64

/-- The smallest mantissa with all its bits. -/
def minMantissa : Nat := 1 <<< 52

/-- The exponent of the smallest numbers. -/
def minExponent : Int := -1074

/-- The exponent of the largest numbers. -/
def maxExponent : Int := 971

/-- A quotient rounded to the nearest natural number, a half to the even one. -/
def roundDiv (num den : Nat) : Nat :=
  let q := num / den
  let r := num % den
  if 2 * r < den then q
  else if den < 2 * r then q + 1
  else if q % 2 = 0 then q else q + 1

/-- The rational `num / den * 2 ^ -e` as a quotient of natural numbers. -/
private def scaled (num den : Nat) (e : Int) : Nat × Nat :=
  if e < 0 then (num <<< e.natAbs, den) else (num, den <<< e.natAbs)

/-- The number nearest to a positive quotient. -/
def ofQuotient (negative : Bool) (num den : Nat) : Binary64 :=
  let guess : Int := (num.log2 : Int) - den.log2 - 52
  let (n, d) := scaled num den guess
  let e := max minExponent (if n / d < minMantissa then guess - 1 else guess)
  let (n, d) := scaled num den e
  let m := roundDiv n d
  let (m, e) := if m = 2 * minMantissa then (minMantissa, e + 1) else (m, e)
  if maxExponent < e then .infinite negative else .finite negative m e

/-- The number nearest to `digits * 10 ^ exponent`. Where all digits are beyond the range of finite
numbers, their number decides. -/
def ofDecimal (negative : Bool) (digits : Nat) (exponent : Int) : Binary64 :=
  let size : Int := exponent + (Nat.toDigits 10 digits).length
  if digits = 0 || size < -330 then .finite negative 0 minExponent
  else if 310 < size then .infinite negative
  else if exponent < 0 then ofQuotient negative digits (Nat.pow 10 exponent.natAbs)
  else ofQuotient negative (digits * Nat.pow 10 exponent.natAbs) 1

/-- Twice the bounds of what rounds to `mantissa * 2 ^ exponent`, in units of `2 ^ exponent`; doubled
again where the number below is nearer. -/
private def bounds (mantissa : Nat) (exponent : Int) : Nat × Nat × Nat :=
  if mantissa = minMantissa ∧ minExponent < exponent then (4 * mantissa - 1, 4 * mantissa + 2, 4)
  else (2 * mantissa - 1, 2 * mantissa + 1, 2)

/-- `a / b` compared with `c / d`. -/
private def less (a b c d : Nat) : Bool := a * d < c * b

/-- The digits nearest to `num / den` on the grid of `10 ^ place`, if that rounds to it. -/
private def onGrid? (num den low high unit : Nat) (even : Bool) (place : Int) : Option Nat :=
  let (gridNum, gridDen) := if place < 0 then (1, Nat.pow 10 place.natAbs) else (Nat.pow 10 place.natAbs, 1)
  let below := num * gridDen / (den * gridNum)
  let inside (k : Nat) : Bool :=
    let a := k * gridNum * unit
    let b := gridDen
    let atLow := !less a b low den && (even || a * den ≠ low * b)
    let atHigh := !less high den a b && (even || a * den ≠ high * b)
    atLow && atHigh
  let rest := num * gridDen - below * (den * gridNum)
  let nearer := if 2 * rest ≤ den * gridNum then [below, below + 1] else [below + 1, below]
  nearer.find? fun k => k ≠ 0 && inside k

private def shortestFrom (num den low high unit : Nat) (even : Bool) : Nat → Int → Nat × Int
  | 0, place => ((onGrid? num den low high unit even place).getD 0, place)
  | n + 1, place =>
    match onGrid? num den low high unit even place with
    | some k => (k, place)
    | none => shortestFrom num den low high unit even n (place - 1)

/-- The fewest digits, and the place of the last one, that a positive number is nearest to. -/
def shortest (mantissa : Nat) (exponent : Int) : Nat × Int :=
  let (low, high, unit) := bounds mantissa exponent
  let (up, down) := if exponent < 0 then (1, 1 <<< exponent.natAbs) else (1 <<< exponent.natAbs, 1)
  let num := mantissa * up
  let place : Int := if down ≤ num then (Nat.toDigits 10 (num / down)).length
    else 1 - ((Nat.toDigits 10 (down / num)).length : Int)
  shortestFrom num down (low * up) (high * up) unit (mantissa % 2 = 0) 20 place

private def dropZeros : Nat → Nat → Int → Nat × Int
  | 0, k, place => (k, place)
  | n + 1, k, place =>
    if k ≠ 0 ∧ k % 10 = 0 then dropZeros n (k / 10) (place + 1) else (k, place)

private def zeros (n : Nat) : List Char := List.replicate n '0'

/-- A positive number without an exponent, and with a point. -/
private def positional (digits : Nat) (place : Int) : List Char :=
  let ds := Nat.toDigits 10 digits
  if 0 ≤ place then ds ++ zeros place.natAbs ++ ['.', '0']
  else
    let after := place.natAbs
    if after < ds.length then ds.take (ds.length - after) ++ '.' :: ds.drop (ds.length - after)
    else '0' :: '.' :: zeros (after - ds.length) ++ ds

/-- The shortest text that reads back. -/
def text : Binary64 → String
  | nan => "NaN"
  | infinite negative => if negative then "-inf" else "inf"
  | finite negative mantissa exponent =>
    let sign := if negative then ['-'] else []
    if mantissa = 0 then String.ofList (sign ++ "0.0".toList)
    else
      let (k, place) := shortest mantissa exponent
      let (k, place) := dropZeros 20 k place
      String.ofList (sign ++ positional k place)

end Binary64
end TypeScriptRepl.Number
