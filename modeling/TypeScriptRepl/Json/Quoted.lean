/-!
String literals of JSON. A literal stays on one line, and the only quote in it that no backslash
stands before is the last one.
-/
namespace TypeScriptRepl.Json.Quoted

def hexDigit (n : Nat) : Char := Char.ofNat (if n < 10 then 48 + n else 87 + n)

/-- How a character is written inside a literal. -/
def escape (c : Char) : List Char :=
  if c = '"' then ['\\', '"']
  else if c = '\\' then ['\\', '\\']
  else if c = '\x08' then ['\\', 'b']
  else if c = '\x0c' then ['\\', 'f']
  else if c = '\n' then ['\\', 'n']
  else if c = '\r' then ['\\', 'r']
  else if c = '\t' then ['\\', 't']
  else if c.toNat < 32 then
    ['\\', 'u', '0', '0', hexDigit (c.toNat / 16), hexDigit (c.toNat % 16)]
  else [c]

def encode (cs : List Char) : List Char := '"' :: cs.flatMap escape ++ ['"']

def hexValue? (c : Char) : Option Nat :=
  if '0' ≤ c ∧ c ≤ '9' then some (c.toNat - 48)
  else if 'a' ≤ c ∧ c ≤ 'f' then some (c.toNat - 87)
  else if 'A' ≤ c ∧ c ≤ 'F' then some (c.toNat - 55)
  else none

def hexWord? (a b c d : Char) : Option Nat := do
  return ((((← hexValue? a) * 16 + (← hexValue? b)) * 16 + (← hexValue? c)) * 16) + (← hexValue? d)

def simpleEscape? (c : Char) : Option Char :=
  match c with
  | '"' => some '"'
  | '\\' => some '\\'
  | '/' => some '/'
  | 'b' => some '\x08'
  | 'f' => some '\x0c'
  | 'n' => some '\n'
  | 'r' => some '\r'
  | 't' => some '\t'
  | _ => none

/-- A character that two halves of a surrogate pair stand for. -/
def pair? (high low : Nat) : Option Char :=
  if 0xD800 ≤ high ∧ high < 0xDC00 ∧ 0xDC00 ≤ low ∧ low < 0xE000 then
    some (Char.ofNat (0x10000 + (high - 0xD800) * 0x400 + (low - 0xDC00)))
  else none

/-- `high` is the first half of a surrogate pair, whose second half has to follow. -/
def read : List Char → Option Nat → List Char → Option (List Char × List Char)
  | '"' :: rest, none, found => some (found.reverse, rest)
  | '\\' :: 'u' :: a :: b :: c :: d :: rest, high, found =>
    match hexWord? a b c d, high with
    | none, _ => none
    | some n, none =>
      if 0xD800 ≤ n ∧ n < 0xDC00 then read rest (some n) found
      else if 0xDC00 ≤ n ∧ n < 0xE000 then none
      else read rest none (Char.ofNat n :: found)
    | some n, some h =>
      match pair? h n with
      | some c => read rest none (c :: found)
      | none => none
  | '\\' :: c :: rest, none, found =>
    match simpleEscape? c with
    | some c => read rest none (c :: found)
    | none => none
  | c :: rest, none, found => if c.toNat < 32 ∨ c = '\\' then none else read rest none (c :: found)
  | _, _, _ => none

/-- Reads the literal that a text begins with: what it stands for, and the text after it. -/
def decode : List Char → Option (List Char × List Char)
  | '"' :: rest => read rest none []
  | _ => none

end TypeScriptRepl.Json.Quoted
