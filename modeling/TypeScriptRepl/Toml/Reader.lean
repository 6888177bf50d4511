import TypeScriptRepl.Text.Cursor
import TypeScriptRepl.Toml.Fault

/-! Readers: functions that read something from the beginning of a text. -/
namespace TypeScriptRepl.Toml

open Text

/-- A reader that misses leaves room for another one; after one that halts there is no other. -/
inductive Outcome (α : Type) where
  | done (value : α) (rest : Cursor)
  | miss (f : Fault)
  | halt (f : Fault)
deriving Inhabited

def Reader (α : Type) : Type := Cursor → Outcome α

namespace Reader

variable {α β : Type}

instance : Monad Reader where
  pure a := fun c => .done a c
  bind r f := fun c =>
    match r c with
    | .done a rest => f a rest
    | .miss e => .miss e
    | .halt e => .halt e

def faultAt (c : Cursor) (cause : Option String) : Fault := ⟨c.position.bytes, none, [], cause⟩

def fail : Reader α := fun c => .miss (faultAt c none)

/-- The rest of the text. -/
def rest : Reader (List Char) := fun c => .done c.rest c

/-- The number of bytes before the rest of the text. -/
def offset : Reader Nat := fun c => .done c.position.bytes c

/-- Once `r` is tried, there is no other reader. -/
def commit (r : Reader α) : Reader α := fun c =>
  match r c with
  | .miss e => .halt e
  | o => o

def mapFault (f : Fault → Fault) (r : Reader α) : Reader α := fun c =>
  match r c with
  | .done a rest => .done a rest
  | .miss e => .miss (f e)
  | .halt e => .halt (f e)

def labelled (label : String) (r : Reader α) : Reader α := mapFault (·.labelled label) r

def expecting (expected : List String) (r : Reader α) : Reader α := mapFault (·.expecting expected) r

/-- What `r` reads, if it does not miss. -/
def attempt (r : Reader α) : Reader (Option α) := fun c =>
  match r c with
  | .done a rest => .done (some a) rest
  | .miss _ => .done none c
  | .halt e => .halt e

/-- What `r` reads, or else what `s` reads. -/
def orElse (r s : Reader α) : Reader α := fun c =>
  match r c with
  | .miss _ => s c
  | o => o

/-- What `r` reads is read again afterwards. -/
def ahead (r : Reader α) : Reader α := fun c =>
  match r c with
  | .done a _ => .done a c
  | o => o

/-- Refuses some of what `r` reads. The cause stands where `r` began. -/
def check (f : α → Except String β) (r : Reader α) : Reader β := fun c =>
  match r c with
  | .done a rest =>
    match f a with
    | .ok b => .done b rest
    | .error cause => .miss (faultAt c (some cause))
  | .miss e => .miss e
  | .halt e => .halt e

/-- Refuses what `r` reads unless it satisfies `p`. -/
def satisfying (p : α → Bool) (r : Reader α) : Reader α := fun c =>
  match r c with
  | .done a rest => if p a then .done a rest else .miss (faultAt c none)
  | o => o

/-- One character. -/
def any : Reader Char := fun c =>
  match c.rest with
  | [] => .miss (faultAt c none)
  | a :: _ => .done a c.next

/-- One character that satisfies `p`. -/
def char (p : Char → Bool) : Reader Char := any.satisfying p

def word (w : String) : Reader Unit := fun c =>
  match c.skipWord? w.toList with
  | some rest => .done () rest
  | none => .miss (faultAt c none)

/-- All characters up to the first one that does not satisfy `p`. -/
def takeWhile (p : Char → Bool) : Reader (List Char) := fun c =>
  .done (c.rest.takeWhile p) (c.skipWhile p)

/-- At least one character. -/
def takeWhile₁ (p : Char → Bool) : Reader (List Char) := (takeWhile p).satisfying (!·.isEmpty)

def takeUpTo : Nat → (Char → Bool) → Cursor → List Char → List Char × Cursor
  | 0, _, c, found => (found.reverse, c)
  | n + 1, p, c, found =>
    match c.rest with
    | [] => (found.reverse, c)
    | a :: _ => if p a then takeUpTo n p c.next (a :: found) else (found.reverse, c)

/-- Exactly `n` characters that satisfy `p`. -/
def exactly (n : Nat) (p : Char → Bool) : Reader (List Char) := fun c =>
  let (found, rest) := takeUpTo n p c []
  if found.length = n then .done found rest else .miss (faultAt c none)

def atEnd : Reader Unit := fun c => if c.atEnd then .done () c else .miss (faultAt c none)

/-- What `r` reads, with the range of bytes that it takes. -/
def located (r : Reader α) : Reader (α × Range) := do
  let start ← offset
  let a ← r
  return (a, ⟨start, ← offset⟩)

/-- The text that `r` reads. -/
def taken (r : Reader α) : Reader (List Char) := fun c =>
  match r c with
  | .done _ rest => .done (c.rest.take (rest.position.chars - c.position.chars)) rest
  | .miss e => .miss e
  | .halt e => .halt e

def manyFrom (r : Reader α) : Nat → List α → Reader (List α)
  | 0, found => pure found.reverse
  | n + 1, found => do
    match ← attempt r with
    | some a => manyFrom r n (a :: found)
    | none => pure found.reverse

/-- What `r` reads again and again, until it misses. It never reads nothing. -/
def many (r : Reader α) : Reader (List α) := do
  manyFrom r ((← rest).length + 1) []

/-- One or more of what `r` reads, with separators between them. -/
def separated₁ (r : Reader α) (separator : Reader β) : Reader (List α) := do
  let a ← r
  return a :: (← many (do let _ ← separator; r))

def separated (r : Reader α) (separator : Reader β) : Reader (List α) := do
  return (← attempt (separated₁ r separator)).getD []

end Reader
end TypeScriptRepl.Toml
