import TypeScriptRepl.Grammar.LexTable
import TypeScriptRepl.Grammar.Packed
import TypeScriptRepl.Grammar.Symbol
import TypeScriptRepl.Text.Cursor

/-! Lexemes that the token automaton finds: the longest one wins, whatever stands around it. -/
namespace TypeScriptRepl.Syntax

open Grammar Text

/-- A token and the stretch of text it covers. -/
structure Lexeme where
  token : Symbol
  start : Extent
  stop : Extent
deriving Repr, DecidableEq, Inhabited

/-- What one run of the automaton found: a lexeme, if any; where a token would have started; and how
far the text was read. -/
structure Scan where
  lexeme : Option Lexeme
  start : Extent
  reached : Cursor
deriving Repr, Inhabited

private def classIn (x : Nat) : List (Nat × Nat) → Nat → Nat
  | [], k => k
  | (first, k') :: runs, k => if first ≤ x then classIn x runs k' else k

/-- The class of a character: those of one class are alike in every lexeme. -/
def charClass (c : Char) : Nat :=
  if c.toNat < 128 then Packed.bits asciiClasses (6 * c.toNat) 6 else classIn c.toNat classRuns 0

/-- Where a row leads on `c`, and whether `c` is left out of the lexeme. -/
private def transition (row : Nat) (c : Char) : Option (Nat × Bool) :=
  let k := charClass c
  (Packed.find? 16 (row >>> 16) fun t => (Packed.word charSets (t % 128 - 1)).testBit k).map
    fun t => (Packed.bits t 7 8, (t >>> 15) = 1)

private def accepted (row : Nat) (p : Extent) (found : Option (Symbol × Extent)) :
    Option (Symbol × Extent) :=
  match row % 256 with
  | 0 => found
  | t + 1 => some (t, p)

/-- A lexeme that ends before its start is empty. -/
private def Scan.of (start : Extent) (found : Option (Symbol × Extent)) (reached : Cursor) : Scan :=
  ⟨found.map fun (t, stop) => ⟨t, if stop.bytes < start.bytes then stop else start, stop⟩, start,
    reached⟩

private def run : List Char → Extent → Nat → Extent → Option (Symbol × Extent) → Scan
  | [], p, state, start, found =>
    let row := Packed.word lexRows state
    let found := accepted row p found
    match Packed.bits row 8 8 with
    | 0 => .of start found ⟨[], p⟩
    | last + 1 => .of start (accepted (Packed.word lexRows last) p found) ⟨[], p⟩
  | c :: rest, p, state, start, found =>
    let row := Packed.word lexRows state
    let found := accepted row p found
    match transition row c with
    | none => .of start found ⟨c :: rest, p⟩
    | some (next, skipped) =>
      let q := p.push c
      run rest q next (if skipped then q else start) found

/-- Runs the token automaton from one of its entries. -/
def Scan.lex (entry : Nat) (c : Cursor) : Scan := run c.rest c.position entry c.position none

end TypeScriptRepl.Syntax
