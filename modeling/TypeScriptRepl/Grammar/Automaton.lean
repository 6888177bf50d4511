import TypeScriptRepl.Grammar.GotoRows
import TypeScriptRepl.Grammar.LexTable
import TypeScriptRepl.Grammar.Packed
import TypeScriptRepl.Grammar.ReduceRows
import TypeScriptRepl.Grammar.Shape
import TypeScriptRepl.Grammar.ShiftRows
import TypeScriptRepl.Grammar.StateTable

/-! The parse automaton: what each state does with each symbol. -/
namespace TypeScriptRepl.Grammar

/-- The states of the automaton, numbered. -/
abbrev State := Nat

namespace State

/-- The state in which text is skipped. -/
def error : State := 0

/-- The state at the beginning of a text. -/
def start : State := 1

end State

/-- A step of the automaton. A reduction makes `count` subtrees the children of one of `symbol`;
`penalty` counts against it when two readings of one text compete. -/
inductive Action where
  | shift (target : State) (repetition : Bool)
  | shiftExtra
  | reduce (symbol : Symbol) (count penalty shape : Nat)
  | accept
  | recover
deriving Repr, DecidableEq, Inhabited

private def stateWord (s : State) : Nat :=
  Packed.bits (Packed.word stateWords (s / 8)) (40 * (s % 8)) 40

/-- The longest chain of rows. -/
private def rowDepth : Nat := 32

/-- The value under `key` in row `row`, looked up in the parents of the row if it is not there. -/
private def lookup (rows : Array (Array Nat)) (key : Nat) : Nat → Nat → Nat
  | 0, _ => 0
  | fuel + 1, row =>
    if row = 0 then 0
    else
      let w := Packed.word rows row
      match Packed.find? 22 (w >>> 12) (· % 256 = key) with
      | some e => e >>> 8
      | none => lookup rows key fuel (w % 4096)

/-- All values of a row, by key. -/
private def unfoldRow (rows : Array (Array Nat)) : Nat → Nat → Array Nat
  | 0, _ => #[]
  | fuel + 1, row =>
    if row = 0 then .replicate 256 0
    else
      let w := Packed.word rows row
      (Packed.fields 22 (w >>> 12)).foldl (fun a e => a.setIfInBounds (e % 256) (e >>> 8))
        (unfoldRow rows fuel (w % 4096))

private def Action.ofCode (w : Nat) : Action :=
  match w with
  | 1 => .accept
  | 2 => .recover
  | w =>
    .reduce (Symbol.terminalCount + Packed.bits w 0 8) (Packed.bits w 8 4) (Packed.bits w 12 1)
      (Packed.bits w 13 10)

private def actionList (i : Nat) : List Action :=
  (Packed.fields 24 (Packed.word actionLists i)).map Action.ofCode

private def reduceRow (s : State) : Nat := Packed.word reduceRows (Packed.bits (stateWord s) 24 11)

private def lookaheads (group : Nat) : Nat := Packed.word lookaheadSets (group >>> 10)

/-- What state `s` may do on terminal `x`, a shift last. Comments may stand anywhere. -/
def actions (s : State) (x : Symbol) : List Action :=
  if x = Symbol.comment ∨ x = Symbol.htmlComment then [.shiftExtra]
  else if x.isTerminal then
    let others := match Packed.find? 20 (reduceRow s) fun g => (lookaheads g).testBit x with
      | some g => actionList (g % 1024)
      | none => []
    let v := lookup shiftRows x rowDepth (stateWord s % 4096)
    others ++ if v = 0 then [] else [.shift (v / 2) (v % 2 = 1)]
  else []

/-- Whether `x` is a terminal that `s` can go on with. -/
def hasActions (s : State) (x : Symbol) : Bool := !(actions s x).isEmpty

/-- The terminals that `s` shifts, each with its target, in order. Repetitions are marked. -/
def shifts (s : State) : List (Symbol × State × Bool) :=
  (unfoldRow shiftRows rowDepth (stateWord s % 4096)).toList.zipIdx.filterMap fun (v, x) =>
    if v = 0 then none else some (x, v / 2, v % 2 = 1)

/-- What `s` may do besides shifting, on any terminal but the end of the text, in the order of the
terminals. -/
def otherActions (s : State) : List Action :=
  ((Packed.fields 20 (reduceRow s)).filter fun g =>
    lookaheads g ≠ 1 <<< Symbol.endOfText).flatMap fun g => actionList (g % 1024)

/-- Where `s` goes when a subtree of symbol `x` is put on it; the error state if nowhere. -/
def goto (s : State) (x : Symbol) : State :=
  if x.isTerminal then
    match (actions s x).getLast? with
    | some (.shift t _) => t
    | some .shiftExtra => s
    | _ => State.error
  else if x = Symbol.error ∨ x = Symbol.errorRepeat then State.error
  else lookup gotoRows (x - Symbol.terminalCount + 1) rowDepth (Packed.bits (stateWord s) 12 12) / 2

/-- Whether the first thing `s` does on `x` is a reduction. -/
def reducesOn (s : State) (x : Symbol) : Bool :=
  match actions s x with
  | .reduce .. :: _ => true
  | _ => false

/-- The tokens a state expects: where the token automaton starts, and which tokens that depend on
their surroundings are expected too. -/
structure LexMode where
  entry : Nat
  contextual : Nat
deriving Repr, DecidableEq, Inhabited

def lexMode (s : State) : LexMode :=
  match lexModes[Packed.bits (stateWord s) 35 5]? with
  | some (e, m) => ⟨e, m⟩
  | none => default

end TypeScriptRepl.Grammar
