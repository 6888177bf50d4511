import TypeScriptRepl.Number.Binary64
import TypeScriptRepl.Toml.Trivia

/-! Integers and floats of TOML. An underscore may stand between two digits. -/
namespace TypeScriptRepl.Toml

open Reader
open Number (Binary64)

def isSign (c : Char) : Bool := c = '+' || c = '-'

def groupedDigit (p : Char → Bool) : Reader Unit :=
  orElse (do let _ ← char p) (do word "_"; let _ ← (commit (char p)).expecting ["digit"])

/-- Digits, of which the first one is not an underscore. -/
def grouped (p : Char → Bool) : Reader Unit := do
  let _ ← char p
  let _ ← many (groupedDigit p)

def decimalInteger : Reader (List Char) := labelled "integer" <| taken do
  let _ ← attempt (char isSign)
  orElse
    (do
      let _ ← char fun c => isDigit c && c ≠ '0'
      let _ ← many (groupedDigit isDigit))
    (do let _ ← char isDigit)

def digitValue (c : Char) : Nat :=
  if isDigit c then c.toNat - 48 else if 'a' ≤ c then c.toNat - 87 else c.toNat - 55

def valueOf (base : Nat) (cs : List Char) : Nat :=
  (cs.filter (· ≠ '_')).foldl (fun n c => n * base + digitValue c) 0

/-- A sign and the number after it. -/
def signed (cs : List Char) : Bool × List Char :=
  match cs with
  | '-' :: ds => (true, ds)
  | '+' :: ds => (false, ds)
  | ds => (false, ds)

/-- An integer of 64 bits. -/
def inRange (n : Int) : Except String Int :=
  if Int64.minValue.toInt ≤ n ∧ n ≤ Int64.maxValue.toInt then .ok n
  else .error (if n < 0 then "number too small to fit in target type"
    else "number too large to fit in target type")

def based (base : Nat) (lead label : String) (p : Char → Bool) : Reader Int :=
  commit <| check (fun cs => inRange (valueOf base cs)) <| labelled label do
    word lead
    commit (taken (grouped p))

def integer : Reader Int := do
  match (← rest).take 2 with
  | ['0', 'x'] => based 16 "0x" "hexadecimal integer" isHexDigit
  | ['0', 'o'] => based 8 "0o" "octal integer" fun c => '0' ≤ c && c ≤ '7'
  | ['0', 'b'] => based 2 "0b" "binary integer" fun c => c = '0' || c = '1'
  | _ =>
    let cs ← ahead decimalInteger
    commit <| decimalInteger.check fun _ =>
      let (negative, ds) := signed cs
      inRange (if negative then -(valueOf 10 ds : Int) else valueOf 10 ds)

def exponent : Reader (List Char) := taken do
  let _ ← char fun c => c = 'e' || c = 'E'
  let _ ← attempt (char isSign)
  commit (grouped isDigit)

def fraction : Reader (List Char) := taken do
  word "."
  (commit (grouped isDigit)).expecting ["digit"]

/-- The number of a whole part, a fraction with its point, and an exponent with its letter. -/
def floatOf (whole frac exp : List Char) : Binary64 :=
  let (negative, ds) := signed whole
  let places := (frac.drop 1).filter (· ≠ '_')
  let (below, es) := signed (exp.drop 1)
  let e : Int := if below then -(valueOf 10 es : Int) else valueOf 10 es
  .ofDecimal negative (valueOf 10 (ds ++ places)) (e - places.length)

def plainFloat : Reader Binary64 :=
  let number := do
    let whole ← decimalInteger
    let (frac, exp) ← orElse (do return ([], ← exponent))
      (do
        let frac ← fraction
        return (frac, (← attempt exponent).getD []))
    return floatOf whole frac exp
  do
    let x ← ahead number
    if x = .infinite false then commit fail else number

def infinity : Reader Binary64 := do
  word "inf"
  return .infinite false

def notANumber : Reader Binary64 := do
  word "nan"
  return .nan

def specialFloat : Reader Binary64 := do
  let sign ← attempt (char isSign)
  match ← orElse infinity notANumber with
  | .infinite _ => return .infinite (sign = some '-')
  | x => return x

def float : Reader Binary64 := labelled "floating-point number" (orElse plainFloat specialFloat)

end TypeScriptRepl.Toml
