import TypeScriptRepl.Grammar.Automaton
import TypeScriptRepl.Text.Extent

/-! Concrete subtrees: what the parser builds, with hidden nodes and the cost of their errors. -/
namespace TypeScriptRepl.Syntax

open Grammar Text

/-- What is known of a subtree without looking at its children. Sizes leave the padding before the
subtree out; `visibleNodes` counts nodes that show below this one, `visibleChildren` those that show
right below it, and `leaf` is the symbol of the first leaf. -/
structure Subtree.Info where
  symbol : Symbol
  padding : Extent
  size : Extent
  leaf : Symbol
  isVisible : Bool
  isExtra : Bool := false
  isMissing : Bool := false
  mayBeKeyword : Bool := false
  state : State := 0
  cost : Nat := 0
  penalty : Nat := 0
  visibleNodes : Nat := 0
  visibleChildren : Nat := 0
  shape : Nat := 0
deriving Repr, Inhabited

inductive Subtree where
  | node (info : Subtree.Info) (children : List Subtree)
deriving Repr, Inhabited

/-! What errors cost: readings of one text compete, and the cheaper one wins. -/

/-- The cost of leaving a stretch of text, or a position where something is missing, unexplained. -/
def recoveryCost : Nat := 500

/-- The cost of a token that the text lacks. -/
def missingCost : Nat := 110

/-- The cost of leaving out a node. -/
def skippedNodeCost : Nat := 100

/-- The cost of leaving out text. -/
def skippedTextCost (e : Extent) : Nat := e.bytes + 30 * e.rows

namespace Subtree

def info : Subtree → Info
  | .node i _ => i

def children : Subtree → List Subtree
  | .node _ cs => cs

def symbol (t : Subtree) : Symbol := t.info.symbol

def cost (t : Subtree) : Nat := t.info.cost

def isExtra (t : Subtree) : Bool := t.info.isExtra

def isError (t : Subtree) : Bool := t.symbol = Symbol.error

/-- How far the subtree reaches, its padding included. -/
def total (t : Subtree) : Extent := t.info.padding + t.info.size

/-- How many visible nodes the subtree stands for. -/
def nodeCount (t : Subtree) : Nat :=
  t.info.visibleNodes + (if t.info.isVisible then 1 else 0) +
    if t.symbol = Symbol.errorRepeat then 1 else 0

def setExtra (t : Subtree) (extra : Bool) : Subtree :=
  .node { t.info with isExtra := extra } t.children

/-- The same token read as another one. -/
def retype (t : Subtree) (x : Symbol) : Subtree :=
  .node { t.info with symbol := x, leaf := x, isVisible := x.isVisible } t.children

/-- A token read in state `s`. -/
def token (x : Symbol) (padding size : Extent) (s : State) (mayBeKeyword : Bool) : Subtree :=
  .node
    { symbol := x, padding, size, leaf := x, isVisible := x.isVisible,
      isExtra := x = Symbol.endOfText, mayBeKeyword, state := s }
    []

/-- A token that the text lacks. -/
def missing (x : Symbol) : Subtree :=
  .node
    { symbol := x, padding := .zero, size := .zero, leaf := x, isVisible := x.isVisible,
      isMissing := true, cost := missingCost + recoveryCost }
    []

/-- What has been gathered from the children so far; `index` counts those that are no extras. -/
private structure Sums where
  padding : Extent := .zero
  size : Extent := .zero
  cost : Nat := 0
  penalty : Nat := 0
  visibleNodes : Nat := 0
  visibleChildren : Nat := 0
  index : Nat := 0
  first : Bool := true

private def Sums.push (isError : Bool) (shape : Shape) (s : Sums) (c : Subtree) : Sums :=
  let i := c.info
  let skipped :=
    if !isError || i.isExtra || (c.isError && c.children.isEmpty) then 0
    else if i.isVisible then skippedNodeCost
    else skippedNodeCost * i.visibleChildren
  let aliased := !i.isExtra && i.symbol ≠ Symbol.endOfText && (shape.aliasAt s.index).isSome
  let shows := aliased || i.isVisible
  { padding := if s.first then i.padding else s.padding
    size := if s.first then i.size else s.size + c.total
    cost := s.cost + (if i.symbol = Symbol.errorRepeat then 0 else i.cost) + skipped
    penalty := s.penalty + i.penalty
    visibleNodes := s.visibleNodes + i.visibleNodes + if shows then 1 else 0
    visibleChildren := s.visibleChildren + if shows then 1 else i.visibleChildren
    index := if i.isExtra then s.index else s.index + 1
    first := false }

/-- A subtree of symbol `x` with the given children. -/
def ofChildren (x : Symbol) (children : List Subtree) (shapeIndex penalty : Nat) : Subtree :=
  let isError := x = Symbol.error || x = Symbol.errorRepeat
  let s := children.foldl (Sums.push isError (shape shapeIndex)) {}
  .node
    { symbol := x, padding := s.padding, size := s.size,
      leaf := (children.head?.map (·.info.leaf)).getD x,
      isVisible := x ≠ Symbol.errorRepeat && x.isVisible,
      cost := s.cost + if isError then recoveryCost + skippedTextCost s.size else 0,
      penalty := s.penalty + penalty, visibleNodes := s.visibleNodes,
      visibleChildren := s.visibleChildren, shape := shapeIndex }
    children

/-- A stretch of text that fits nowhere. -/
def error (children : List Subtree) (extra : Bool) : Subtree :=
  (ofChildren Symbol.error children 0 0).setExtra extra

mutual
/-- Orders subtrees by symbol, then by the number of children, then by the children. -/
def order : Subtree → Subtree → Ordering
  | .node a as, .node b bs =>
    (compare a.symbol b.symbol).then ((compare as.length bs.length).then (orderAll as bs))

def orderAll : List Subtree → List Subtree → Ordering
  | a :: as, b :: bs => (order a b).then (orderAll as bs)
  | _, _ => .eq
end

/-- Whether `b` is to be preferred to `a` as a reading of the same text. -/
def isWorseThan (a b : Subtree) : Bool :=
  if b.cost ≠ a.cost then b.cost < a.cost
  else if b.info.penalty ≠ a.info.penalty then b.info.penalty < a.info.penalty
  else if 0 < a.cost then true
  else order a b = .gt

/-- Whether two subtrees can stand for one another on the way to the same state. -/
def isLike (a b : Subtree) : Bool :=
  a.symbol = b.symbol &&
    ((0 < a.cost && 0 < b.cost) ||
      (a.info.padding.bytes = b.info.padding.bytes && a.info.size.bytes = b.info.size.bytes &&
        a.children.length = b.children.length && a.isExtra = b.isExtra))

/-- The children without the extras at the end, and those extras. -/
def splitExtras (ts : List Subtree) : List Subtree × List Subtree :=
  let r := ts.reverse
  ((r.dropWhile isExtra).reverse, (r.takeWhile isExtra).reverse)

end Subtree
end TypeScriptRepl.Syntax
