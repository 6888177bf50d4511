import TypeScriptRepl.Syntax.Subtree

/-!
The parse stack: several readings of the text at once, which share what they have in common. Nodes
are numbered and never removed; each reading is a head that points at its topmost node.
-/
namespace TypeScriptRepl.Syntax

open Grammar Text

/-- The way from a node to one below it. A link without a subtree marks where an error began. -/
structure Link where
  target : Nat
  tree : Option Subtree
deriving Inhabited

/-- A state that was reached, with the totals over the first way down from it. -/
structure StackNode where
  state : State
  position : Extent
  cost : Nat
  penalty : Nat
  nodeCount : Nat
  links : List Link
deriving Inhabited

/-- A state that a reading went through some subtrees ago. -/
structure Waypoint where
  position : Extent
  depth : Nat
  state : State
deriving Inhabited

inductive Status where
  | active
  | paused (lookahead : Subtree)
  | halted
deriving Inhabited

/-- One reading. `nodeCountAtError` counts the nodes it had when its last error began. -/
structure Head where
  node : Nat
  nodeCountAtError : Nat
  status : Status
  waypoints : Option (List Waypoint)
deriving Inhabited

structure Stack where
  nodes : Array StackNode
  heads : List Head
deriving Inhabited

/-- What a walk down the stack took off: the subtrees from the bottom up, and the head that is now
at the node below them. -/
structure Slice where
  trees : List Subtree
  version : Nat
deriving Inhabited

namespace Stack

/-- How many ways down a node keeps. -/
def maxLinks : Nat := 8

/-- How many ways down a walk follows at once. -/
def maxPaths : Nat := 64

/-- One reading, in the start state with nothing read. -/
def initial : Stack :=
  ⟨#[⟨State.start, .zero, 0, 0, 0, []⟩], [⟨0, 0, .active, none⟩]⟩

def headCount (s : Stack) : Nat := s.heads.length

def head (s : Stack) (v : Nat) : Head := s.heads[v]?.getD default

def node (s : Stack) (i : Nat) : StackNode := s.nodes[i]?.getD default

/-- The topmost node of reading `v`. -/
def top (s : Stack) (v : Nat) : StackNode := s.node (s.head v).node

def state (s : Stack) (v : Nat) : State := (s.top v).state

def position (s : Stack) (v : Nat) : Extent := (s.top v).position

def setHead (s : Stack) (v : Nat) (h : Head) : Stack := { s with heads := s.heads.set v h }

def setStatus (s : Stack) (v : Nat) (status : Status) : Stack :=
  s.setHead v { s.head v with status }

def halt (s : Stack) (v : Nat) : Stack := s.setStatus v .halted

def remove (s : Stack) (v : Nat) : Stack := { s with heads := s.heads.eraseIdx v }

def addHead (s : Stack) (h : Head) : Stack := { s with heads := s.heads ++ [h] }

def isActive (s : Stack) (v : Nat) : Bool :=
  match s.heads[v]? with
  | some ⟨_, _, .active, _⟩ => true
  | _ => false

def isPaused (s : Stack) (v : Nat) : Bool :=
  match (s.head v).status with
  | .paused _ => true
  | _ => false

def isHalted (s : Stack) (v : Nat) : Bool :=
  match (s.head v).status with
  | .halted => true
  | _ => false

/-- How many readings are halted. -/
def haltedCount (s : Stack) : Nat := (List.range s.headCount).countP s.isHalted

/-- Puts a subtree and a state on reading `v`. -/
def push : Stack → Nat → Option Subtree → State → Stack
  | ⟨nodes, heads⟩, v, tree, state =>
    let h := heads[v]?.getD default
    let below := nodes[h.node]?.getD default
    let links := [⟨h.node, tree⟩]
    let node := nodes.size
    match tree with
    | none =>
      ⟨nodes.push { below with state, links },
        heads.set v { h with node, nodeCountAtError := below.nodeCount }⟩
    | some t =>
      let above : StackNode :=
        { state, links, position := below.position + t.total, cost := below.cost + t.cost,
          penalty := below.penalty + t.info.penalty, nodeCount := below.nodeCount + t.nodeCount }
      ⟨nodes.push above, heads.set v { h with node }⟩

private def alike : Option Subtree → Option Subtree → Bool
  | none, none => true
  | some a, some b => a.isLike b
  | _, _ => false

private def penaltyOf (t : Option Subtree) : Nat := (t.map (·.info.penalty)).getD 0

private def nodeCountOf (t : Option Subtree) : Nat := (t.map Subtree.nodeCount).getD 0

/-- What a new link does to a node: it replaces the tree of link `i`, it is merged into the node
below link `i`, or it is added. -/
private inductive Placement where
  | sameTarget (i : Nat)
  | sameState (i : Nat)
  | new

private def placement (s : Stack) (link : Link) : List Link → Nat → Placement
  | [], _ => .new
  | e :: links, i =>
    if alike e.tree link.tree then
      if e.target = link.target then .sameTarget i
      else
        let a := s.node e.target
        let b := s.node link.target
        if a.state = b.state ∧ a.position.bytes = b.position.bytes ∧ a.cost = b.cost then
          .sameState i
        else placement s link links (i + 1)
    else placement s link links (i + 1)

/-- Gives node `i` one more way down. -/
private def addLink : Nat → Stack → Nat → Link → Stack
  | 0, s, _, _ => s
  | fuel + 1, s, i, link =>
    if link.target = i then s
    else
      let self := s.node i
      let below := s.node link.target
      match placement s link self.links 0 with
      | .sameTarget k =>
        let old := self.links[k]?.getD default
        if penaltyOf link.tree < penaltyOf old.tree then
          { s with
            nodes := s.nodes.setIfInBounds i
              { self with
                links := self.links.set k { old with tree := link.tree }
                penalty := below.penalty + penaltyOf link.tree } }
        else s
      | .sameState k =>
        let target := (self.links[k]?.getD default).target
        let s := below.links.foldl (addLink fuel · target) s
        let self := s.node i
        let penalty := below.penalty + penaltyOf link.tree
        if penalty < self.penalty then
          { s with nodes := s.nodes.setIfInBounds i { self with penalty } }
        else s
      | .new =>
        if self.links.length = maxLinks then s
        else
          { s with
            nodes := s.nodes.setIfInBounds i
              { self with
                links := self.links ++ [link]
                nodeCount := max self.nodeCount (below.nodeCount + nodeCountOf link.tree)
                penalty := min self.penalty (below.penalty + penaltyOf link.tree) } }

/-- Two readings can be merged if they are in one state at one position at one cost. -/
def canMerge (s : Stack) (a b : Nat) : Bool :=
  let x := s.top a
  let y := s.top b
  s.isActive a && s.isActive b && x.state = y.state && x.position.bytes = y.position.bytes &&
    x.cost = y.cost

/-- Merges reading `b` into `a`, if they can be merged. -/
def merge? (s : Stack) (a b : Nat) : Option Stack :=
  if s.canMerge a b then
    let i := (s.head a).node
    let s := (s.top b).links.foldl (addLink (s.nodes.size + 1) · i) s
    let s :=
      if s.state a = State.error then
        s.setHead a { s.head a with nodeCountAtError := (s.top a).nodeCount }
      else s
    some (s.remove b)
  else none

/-- Merges reading `b` into the first of the readings `vs` that it can be merged into. -/
def mergeInto? (s : Stack) (vs : List Nat) (b : Nat) : Option Stack := vs.findSome? (s.merge? · b)

/-- Moves reading `a` to the place of `b`, which is given up. -/
def renumber (s : Stack) (a b : Nat) : Stack :=
  if a = b then s
  else
    let h := s.head a
    (s.setHead b { h with waypoints := h.waypoints.orElse fun _ => (s.head b).waypoints }).remove a

/-- A way that a walk has gone so far; `depth` counts the subtrees on it that are no extras. -/
structure Path where
  node : Nat
  trees : List Subtree
  depth : Nat

/-- What a walk does at a node: `take` makes a slice of the way so far. -/
structure Visit where
  take : Bool
  stop : Bool

private structure Walk (σ : Type) where
  stack : Stack
  slices : List Slice
  kept : List Path
  added : List Path
  memo : σ

/-- Slices that end at one node share a head and stand together. -/
private def addSlice (s : Stack) (origin node : Nat) (trees : List Subtree) (slices : List Slice) :
    Stack × List Slice :=
  let r := slices.reverse
  match r.findIdx? fun sl => (s.head sl.version).node = node with
  | some k =>
    let version := (r[k]?.getD default).version
    (s, (r.take k ++ ⟨trees, version⟩ :: r.drop k).reverse)
  | none =>
    (s.addHead ⟨node, (s.head origin).nodeCountAtError, .active, none⟩,
      slices ++ [⟨trees, s.headCount⟩])

private def follow (p : Path) (l : Link) : Path :=
  match l.tree with
  | none => ⟨l.target, p.trees, p.depth + 1⟩
  | some t => ⟨l.target, t :: p.trees, if t.isExtra then p.depth else p.depth + 1⟩

private def walkStep {σ : Type} (visit : σ → Path → StackNode → Visit × σ) (origin : Nat) :
    List Path → Walk σ → Walk σ
  | [], w => w
  | p :: paths, w =>
    let node := w.stack.node p.node
    let (v, memo) := visit w.memo p node
    let (stack, slices) :=
      if v.take then addSlice w.stack origin p.node p.trees w.slices else (w.stack, w.slices)
    let w := { w with stack, slices, memo }
    match node.links with
    | [] => walkStep visit origin paths w
    | l :: links =>
      if v.stop then walkStep visit origin paths w
      else
        let room := maxPaths - (w.kept.length + 1 + paths.length + w.added.length)
        let added := w.added ++ (links.take room).map (follow p)
        walkStep visit origin paths { w with kept := w.kept ++ [follow p l], added }

private def walkFrom {σ : Type} (visit : σ → Path → StackNode → Visit × σ) (origin : Nat) :
    Nat → Walk σ → Walk σ
  | 0, w => w
  | fuel + 1, w =>
    match w.kept ++ w.added with
    | [] => w
    | paths =>
      walkFrom visit origin fuel (walkStep visit origin paths { w with kept := [], added := [] })

/-- Walks down from reading `v` on all ways at once, one link at a time. -/
def walk {σ : Type} (s : Stack) (v : Nat) (visit : σ → Path → StackNode → Visit × σ) (memo : σ) :
    Stack × List Slice × σ :=
  let w := walkFrom visit v (s.nodes.size + 1) ⟨s, [], [⟨(s.head v).node, [], 0⟩], [], memo⟩
  (w.stack, w.slices, w.memo)

/-- Takes `count` subtrees, extras not counted, off reading `v`. -/
def pop (s : Stack) (v count : Nat) : Stack × List Slice :=
  let (s, slices, _) := s.walk v
    (fun _ p _ => (⟨p.depth = count, p.depth = count⟩, ())) ()
  (s, slices)

/-- Takes everything off reading `v`. -/
def popAll (s : Stack) (v : Nat) : Stack × List Slice :=
  let (s, slices, _) := s.walk v (fun _ _ n => (⟨n.links.isEmpty, false⟩, ())) ()
  (s, slices)

/-- Takes the error on top of reading `v` off, if there is one. -/
def popError (s : Stack) (v : Nat) : Stack × List Subtree :=
  if (s.top v).links.any fun l => (l.tree.map Subtree.isError).getD false then
    let (s, slices, _) := s.walk v
      (fun found p _ =>
        match p.trees.getLast? with
        | none => (⟨false, false⟩, found)
        | some t => if !found && t.isError then (⟨true, true⟩, true) else (⟨false, true⟩, found))
      false
    match slices with
    | [] => (s, [])
    | sl :: _ => (s.renumber sl.version v, sl.trees)
  else (s, [])

private def alreadyPassed (d : Nat) (state : State) : List Waypoint → Bool
  | [] => false
  | w :: ws =>
    if w.depth < d then false
    else (w.depth = d ∧ w.state = state) || alreadyPassed d state ws

/-- Notes the states that reading `v` went through, down to `depth` subtrees ago. -/
def recordWaypoints (s : Stack) (v depth : Nat) : Stack :=
  let (s, _, passed) := s.walk v
    (fun (passed : List Waypoint) p n =>
      if depth < p.depth then (⟨false, true⟩, passed)
      else if alreadyPassed p.depth n.state passed then (⟨false, false⟩, passed)
      else (⟨false, false⟩, ⟨n.position, p.depth, n.state⟩ :: passed))
    []
  s.setHead v { s.head v with waypoints := some passed.reverse }

/-- The cost of the errors of reading `v`, an error that has just begun included. -/
def errorCost (s : Stack) (v : Nat) : Nat :=
  let n := s.top v
  let begun := n.state = State.error ∧ (n.links.head?.bind (·.tree)).isNone
  n.cost + if s.isPaused v ∨ begun then recoveryCost else 0

/-- Lets the node count at the last error of reading `v` be no more than its present one. -/
def settle (s : Stack) (v : Nat) : Stack :=
  let h := s.head v
  s.setHead v { h with nodeCountAtError := min h.nodeCountAtError (s.top v).nodeCount }

/-- How many nodes reading `v` has gained since its last error. -/
def nodesSinceError (s : Stack) (v : Nat) : Nat := (s.top v).nodeCount - (s.head v).nodeCountAtError

private def advancedFrom (s : Stack) (countAtError : Nat) : Nat → Nat → Bool
  | 0, _ => false
  | fuel + 1, i =>
    let n := s.node i
    match n.links with
    | ⟨below, some t⟩ :: _ =>
      if 0 < t.total.bytes then true
      else if countAtError < n.nodeCount ∧ t.cost = 0 then advancedFrom s countAtError fuel below
      else false
    | _ => false

/-- Whether reading `v` has taken up some text since its last error. -/
def hasAdvanced (s : Stack) (v : Nat) : Bool :=
  (s.top v).cost = 0 ||
    advancedFrom s (s.head v).nodeCountAtError (s.nodes.size + 1) (s.head v).node

end Stack
end TypeScriptRepl.Syntax
