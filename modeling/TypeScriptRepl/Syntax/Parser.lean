import TypeScriptRepl.Syntax.Stack
import TypeScriptRepl.Syntax.Tokenizer

/-!
Parsing with error recovery. All readings that the grammar allows are followed at once; a reading
that gets stuck goes on with a missing token put in or with some text left out, and the readings
compete by the cost of that.
-/
namespace TypeScriptRepl.Syntax

open Grammar Text

/-- How many readings are kept. -/
def maxVersions : Nat := 6

/-- How many more may come up while reductions are made. -/
def spareVersions : Nat := 4

/-- How much worse than another a reading may be and still be kept, before the nodes it has gained
since are counted. -/
def maxCostDifference : Nat := 1800

/-- How many subtrees back a reading looks for a state in which it can go on. -/
def maxWaypointDepth : Nat := 16

namespace Stack

private def candidate (x : Symbol) (shape penalty : Nat) (trees : List Subtree) :
    Subtree × List Subtree :=
  let (children, trailing) := Subtree.splitExtras trees
  (.ofChildren x children shape penalty, trailing)

private def reduceSlices (v : Nat) (x : Symbol) (shape penalty limit : Nat) :
    List (List Slice) → Stack → Nat → Stack
  | [], s, _ => s
  | [] :: groups, s, removed => reduceSlices v x shape penalty limit groups s removed
  | (first :: more) :: groups, s, removed =>
    let version := first.version - removed
    if limit < version then
      reduceSlices v x shape penalty limit groups (s.remove version) (removed + 1)
    else
      let (parent, trailing) :=
        more.foldl
          (fun best slice =>
            let other := candidate x shape penalty slice.trees
            if best.1.isWorseThan other.1 then other else best)
          (candidate x shape penalty first.trees)
      let next := goto (s.state version) x
      let s := trailing.foldl (fun s t => s.push version (some t) next)
        (s.push version (some parent) next)
      match s.mergeInto? ((List.range version).filter (· ≠ v)) version with
      | some s => reduceSlices v x shape penalty limit groups s (removed + 1)
      | none => reduceSlices v x shape penalty limit groups s removed

/-- Makes the topmost `count` subtrees of reading `v` the children of a new one. Each way down gives
a reading of its own; the first of them is named. -/
def reduce (s : Stack) (v : Nat) (x : Symbol) (count penalty shape : Nat) : Stack × Option Nat :=
  let before := s.headCount
  let (s, slices) := s.pop v count
  let limit := maxVersions + spareVersions + s.haltedCount
  let s := reduceSlices v x shape penalty limit (slices.splitBy (·.version == ·.version)) s 0
  (s, if before < s.headCount then some before else none)

private def sameReduction : Action → Action → Bool
  | .reduce x n _ _, .reduce y m _ _ => x = y && n = m
  | _, _ => false

private def isReduction : Action → Bool
  | .reduce _ n _ _ => n ≠ 0
  | _ => false

/-- Whether the parser can go on after an action. -/
private def goesOn : Action → Bool
  | .shift _ repetition => !repetition
  | .recover => true
  | _ => false

private def reduceBy (s : Stack) (v : Nat) : Action → Stack × Option Nat
  | .reduce x n penalty shape => s.reduce v x n penalty shape
  | _ => (s, none)

/-- Whether state `s` can go on before a lookahead, and the reductions it can make. Without a
lookahead, those before any terminal. -/
private def prospects (s : State) : Option Symbol → Bool × List Action
  | some x =>
    let found := actions s x
    (found.any goesOn, found.filter isReduction)
  | none =>
    let others := otherActions s
    ((shifts s).any (fun (_, _, repetition) => !repetition) || others.any goesOn,
      others.filter isReduction)

private def exhaustFrom (start before : Nat) (lookahead : Option Symbol) :
    Nat → Stack → Nat → Nat → Bool → Stack × Bool
  | 0, s, _, _, canGoOn => (s, canGoOn)
  | fuel + 1, s, v, round, canGoOn =>
    let count := s.headCount
    if count ≤ v then (s, canGoOn)
    else
      match s.mergeInto? (List.range' before (v - before)) v with
      | some s => exhaustFrom start before lookahead fuel s v (round + 1) canGoOn
      | none =>
        let (open_, found) := prospects (s.state v) lookahead
        let reductions :=
          found.foldl (fun seen a => if seen.any (sameReduction a) then seen else seen ++ [a]) []
        let (s, result) := reductions.foldl (fun (s, _) a => reduceBy s v a) (s, none)
        let next := if v = start then count else v + 1
        if open_ then
          exhaustFrom start before lookahead fuel s next (round + 1) true
        else
          match result with
          | some version =>
            if round < maxVersions then
              exhaustFrom start before lookahead fuel (s.renumber version v) v (round + 1) canGoOn
            else
              let s := if lookahead.isSome then s.remove v else s
              exhaustFrom start before lookahead fuel s next (round + 1) canGoOn
          | none =>
            let s := if lookahead.isSome then s.remove v else s
            exhaustFrom start before lookahead fuel s next (round + 1) canGoOn

/-- Makes all reductions that reading `start` allows before a lookahead, and says whether some
reading can go on then. Without a lookahead, all reductions that any terminal allows. -/
def exhaust (s : Stack) (start : Nat) (lookahead : Option Symbol) : Stack × Bool :=
  exhaustFrom start s.headCount lookahead (64 + 8 * s.headCount) s start 0 false

private def insertMissing (v : Nat) (lookahead : Symbol) :
    List (Symbol × State × Bool) → Stack → Stack × Bool
  | [], s => (s, false)
  | (x, after, _) :: xs, s =>
    if after = State.error ∨ after = s.state v ∨ !reducesOn after lookahead then
      insertMissing v lookahead xs s
    else
      let version := s.headCount
      let s := (s.addHead { s.head v with waypoints := none }).push version (some (.missing x)) after
      let (s, canGoOn) := s.exhaust version (if lookahead = Symbol.endOfText then none else lookahead)
      if canGoOn then (s, true) else insertMissing v lookahead xs s

private def beginError (lookahead : Symbol) : List Nat → Bool → Stack → Stack
  | [], _, s => s
  | v :: vs, inserted, s =>
    let (s, inserted) :=
      if inserted then (s, true)
      else insertMissing v lookahead (shifts (s.state v)) s
    beginError lookahead vs inserted (s.push v none State.error)

/-- Puts reading `v`, and what its reductions give, into the error state, where one of them may
first go on with a missing token. -/
def enterError (s : Stack) (v : Nat) (lookahead : Symbol) : Stack :=
  let before := s.headCount
  let (s, _) := s.exhaust v none
  let added := s.headCount - before
  let s := beginError lookahead (v :: List.range' before added) false s
  let s := (List.range added).foldl (fun s _ => (s.merge? v before).getD s) s
  s.recordWaypoints v maxWaypointDepth

/-- How a reading stands in the competition. -/
structure Standing where
  cost : Nat
  nodes : Nat
  penalty : Nat
  inError : Bool

inductive Preference where
  | takeLeft
  | preferLeft
  | neither
  | preferRight
  | takeRight
deriving DecidableEq

/-- Compares readings: which one goes first, and whether the other can be given up. -/
def Standing.compare (a b : Standing) : Preference :=
  if !a.inError && b.inError then if a.cost < b.cost then .takeLeft else .preferLeft
  else if a.inError && !b.inError then if b.cost < a.cost then .takeRight else .preferRight
  else if a.cost < b.cost then
    if maxCostDifference < (b.cost - a.cost) * (1 + a.nodes) then .takeLeft else .preferLeft
  else if b.cost < a.cost then
    if maxCostDifference < (a.cost - b.cost) * (1 + b.nodes) then .takeRight else .preferRight
  else if a.penalty < b.penalty then .preferLeft
  else if b.penalty < a.penalty then .preferRight
  else .neither

/-- The standing of a reading whose node count is settled. -/
def standing (s : Stack) (v : Nat) : Standing :=
  { cost := s.errorCost v + if s.isPaused v then skippedNodeCost else 0
    nodes := s.nodesSinceError v
    penalty := (s.top v).penalty
    inError := s.isPaused v || s.state v = State.error }

private def betterThan (v : Nat) (mine : Standing) : List Nat → Stack → Stack × Bool
  | [], s => (s, false)
  | i :: is, s =>
    if i = v ∨ !s.isActive i ∨ (s.position i).bytes < (s.position v).bytes then
      betterThan v mine is s
    else
      let s := s.settle i
      match mine.compare (s.standing i) with
      | .takeRight => (s, true)
      | .preferRight => if s.canMerge i v then (s, true) else betterThan v mine is s
      | _ => betterThan v mine is s

/-- Whether another reading, or a finished tree, makes reading `v` at the given cost pointless. -/
def hasBetter (s : Stack) (v cost : Nat) (finished : Option Subtree) : Stack × Bool :=
  if finished.any (·.cost ≤ cost) then (s, true)
  else
    let s := s.settle v
    let mine : Standing := ⟨cost, s.nodesSinceError v, (s.top v).penalty, false⟩
    betterThan v mine (List.range s.headCount) s

private def rewindSlices (goal : State) : List Slice → Stack → Option Nat → Stack × Option Nat
  | [], s, done => (s, done)
  | sl :: slices, s, done =>
    if done = some sl.version then rewindSlices goal slices s done
    else if s.state sl.version ≠ goal then rewindSlices goal slices (s.halt sl.version) done
    else
      let (s, errors) := s.popError sl.version
      let inside := (errors.head?.map (·.children)).getD []
      let (skipped, trailing) := Subtree.splitExtras (inside ++ sl.trees)
      let s := if skipped.isEmpty then s else s.push sl.version (some (.error skipped true)) goal
      let s := trailing.foldl (fun s t => s.push sl.version (some t) goal) s
      rewindSlices goal slices s (some sl.version)

/-- Takes reading `v` back to state `goal`, `depth` subtrees ago, and leaves what came after it out
as an error. -/
def rewind (s : Stack) (v depth : Nat) (goal : State) : Stack × Bool :=
  let (s, slices) := s.pop v depth
  let (s, done) := rewindSlices goal slices s none
  (s, done.isSome)

end Stack

/-- The readings, the token read last with its position, and the best tree of the whole text. -/
structure Parser where
  stack : Stack
  token : Option (Nat × Subtree)
  finished : Option Subtree
  finishedCount : Nat
deriving Inhabited

namespace Parser

def initial : Parser := ⟨.initial, none, none, 0⟩

/-- The tree of the whole text: the extras around the topmost node become its children. -/
private def rootOf (trees : List Subtree) : Option Subtree :=
  let after := trees.reverse.takeWhile (·.isExtra)
  match trees.reverse.dropWhile (·.isExtra) with
  | [] => none
  | t :: before =>
    some (.ofChildren t.symbol (before.reverse ++ t.children ++ after.reverse) t.info.shape 0)

private def better (best : Option Subtree) (t : Subtree) : Option Subtree :=
  match best with
  | none => some t
  | some b => if b.isWorseThan t then some t else some b

/-- Finishes reading `v` at the end of the text. -/
private def accept (p : Parser) (v : Nat) (lookahead : Subtree) : Parser :=
  let s := p.stack.push v (some lookahead) State.start
  let (s, slices) := s.popAll v
  let finished := slices.foldl
    (fun best sl => ((rootOf sl.trees).map (better best)).getD best) p.finished
  let s := match slices with
    | [] => s
    | sl :: _ => s.remove sl.version
  { p with
    stack := s.halt v, finished, finishedCount := p.finishedCount + slices.length }

/-- Looks for a state that reading `v` went through in which the lookahead can be read, and takes a
new reading back to it. -/
private def rewindFor (finished : Option Subtree) (v : Nat) (lookahead : Subtree)
    (before cost depthOffset : Nat) : List Waypoint → Stack → Stack × Bool
  | [], s => (s, false)
  | w :: ws, s =>
    let position := s.position v
    let taken := (List.range before).any fun i =>
      s.state i = w.state && (s.position i).bytes = position.bytes
    if w.state = State.error ∨ w.position.bytes = position.bytes ∨ taken then
      rewindFor finished v lookahead before cost depthOffset ws s
    else
      let newCost := cost + w.depth * skippedNodeCost + (position.bytes - w.position.bytes) +
        30 * (position.rows - w.position.rows)
      let (s, worse) := s.hasBetter v newCost finished
      if worse then (s, false)
      else if hasActions w.state lookahead.symbol then
        let (s, done) := s.rewind v (w.depth + depthOffset) w.state
        if done then (s, true)
        else rewindFor finished v lookahead before cost depthOffset ws s
      else rewindFor finished v lookahead before cost depthOffset ws s

/-- Drops the readings from number `first` on that are not active. -/
private def dropInactive (s : Stack) (first : Nat) : Stack :=
  let kept := (List.range' first (s.headCount - first)).filter s.isActive
  { s with heads := s.heads.take first ++ kept.map s.head }

/-- Leaves the lookahead out of reading `v`, together with what has been left out before: if reading
`v` has gained nodes since its error, that is its topmost subtree. -/
private def skip (s : Stack) (v gained : Nat) (lookahead : Subtree) : Stack :=
  let extra := (actions State.start lookahead.symbol).getLast? = some .shiftExtra
  let lookahead := if extra then lookahead.setExtra true else lookahead
  let alone := Subtree.ofChildren Symbol.errorRepeat [lookahead] 0 0
  if gained = 0 then s.push v (some alone) State.error
  else
    match s.pop v 1 with
    | (s, []) => s.push v (some alone) State.error
    | (s, sl :: _) =>
      let s := { s with heads := s.heads.take (sl.version + 1) }.renumber sl.version v
      s.push v (some (.ofChildren Symbol.errorRepeat (sl.trees ++ [alone]) 0 0)) State.error

/-- Goes on with reading `v` in the error state: a new reading goes back to where the lookahead fits,
and this one leaves the lookahead out. -/
private def recover (p : Parser) (v : Nat) (lookahead : Subtree) : Parser :=
  let before := p.stack.headCount
  let s := p.stack.settle v
  let gained := s.nodesSinceError v
  let cost := s.errorCost v
  let (s, rewound) :=
    match (s.head v).waypoints with
    | none => (s, false)
    | some ws =>
      if lookahead.isError then (s, false)
      else rewindFor p.finished v lookahead before cost (if 0 < gained then 1 else 0) ws s
  let s := dropInactive s before
  if lookahead.symbol = Symbol.endOfText then
    accept { p with stack := s.push v (some (.error [] false)) State.start } v lookahead
  else if rewound ∧ maxVersions < s.headCount then { p with stack := s.halt v }
  else
    let newCost := cost + skippedNodeCost + skippedTextCost lookahead.total
    let (s, worse) := s.hasBetter v newCost p.finished
    { p with stack := if worse then s.halt v else skip s v gained lookahead }

/-- What became of a reading when it took a token, or some of the reductions before it. -/
private inductive Outcome where
  | shifted
  | reduced (version : Option Nat)
  | accepted
  | recovering
  | stuck

/-- Carries actions out up to the first that uses the lookahead up. -/
private def act (v : Nat) (lookahead : Subtree) : List Action → Stack → Outcome → Stack × Outcome
  | [], s, outcome => (s, outcome)
  | .shift target repetition :: as, s, outcome =>
    if repetition then act v lookahead as s outcome
    else (s.push v (some (lookahead.setExtra false)) target, .shifted)
  | .shiftExtra :: _, s, _ =>
    let state := s.state v
    (s.push v (some (lookahead.setExtra true)) state, .shifted)
  | .reduce x n penalty shape :: as, s, outcome =>
    let (s, version) := s.reduce v x n penalty shape
    let last := match outcome with
      | .reduced w => version.orElse fun _ => w
      | _ => version
    act v lookahead as s (.reduced last)
  | .accept :: _, s, _ => (s, .accepted)
  | .recover :: _, s, _ => (s, .recovering)

private def pause (s : Stack) (v : Nat) (lookahead : Subtree) : Stack :=
  let nodeCountAtError := (s.top v).nodeCount
  s.setHead v { s.head v with status := .paused lookahead, nodeCountAtError }

/-- Makes the reductions before a lookahead and shifts it. What is left to do comes back with the
lookahead, which may have been read as an identifier after all. -/
private def advanceOn (v : Nat) :
    Nat → Stack → Subtree → List Action → Stack × Subtree × Outcome
  | 0, s, lookahead, _ => (s.halt v, lookahead, .stuck)
  | fuel + 1, s, lookahead, todo =>
    match act v lookahead todo s .stuck with
    | (s, .reduced (some version)) =>
      let s := s.renumber version v
      let todo := actions (s.state v) lookahead.info.leaf
      advanceOn v fuel s lookahead todo
    | (s, .reduced none) => (s.halt v, lookahead, .stuck)
    | (s, .stuck) =>
      let state := s.state v
      let asWord :=
        if lookahead.info.mayBeKeyword ∧ lookahead.symbol ≠ Symbol.identifier then
          actions state Symbol.identifier
        else []
      if !asWord.isEmpty then advanceOn v fuel s (lookahead.retype Symbol.identifier) asWord
      else if state = State.error then (s, lookahead, .recovering)
      else (pause s v lookahead, lookahead, .stuck)
    | (s, outcome) => (s, lookahead, outcome)

/-- Whether a token that was read in one state is what another state would read. -/
private def canReuse (s : State) (t : Subtree) : Bool :=
  hasActions s t.symbol && lexMode s = lexMode t.info.state &&
    (t.info.leaf ≠ Symbol.identifier || (!t.info.mayBeKeyword && t.info.state = s))

/-- Takes reading `v` over one token. -/
private def advance (text : Indexed) : Parser → Nat → Parser
  | ⟨s, token, finished, finishedCount⟩, v =>
    let state := s.state v
    let position := s.position v
    let known := token.bind fun (start, t) =>
      if start = position.bytes ∧ canReuse state t then some t else none
    let lookahead := match known with
      | some t => t
      | none => readToken text state (s.hasAdvanced v) position
    let token := some (position.bytes, lookahead)
    let fuel := 16 * (s.nodes.size + 16)
    match advanceOn v fuel s lookahead (actions state lookahead.symbol) with
    | (s, lookahead, .accepted) => accept ⟨s, token, finished, finishedCount⟩ v lookahead
    | (s, lookahead, .recovering) => recover ⟨s, token, finished, finishedCount⟩ v lookahead
    | (s, _, _) => ⟨s, token, finished, finishedCount⟩

/-- Takes reading `v` on until it is ahead of the others, or no longer active. -/
private def advanceFully (text : Indexed) (v : Nat) : Nat → Parser → Nat → Parser × Nat
  | 0, p, last => (p, last)
  | fuel + 1, p, last =>
    if p.stack.isActive v then
      let p := advance text p v
      let position := (p.stack.position v).bytes
      if last < position ∨ (0 < v ∧ position = last) then (p, position)
      else advanceFully text v fuel p last
    else (p, last)

private def advanceAll (text : Indexed) (steps : Nat) : Nat → Nat → Parser → Nat → Parser × Nat
  | 0, _, p, last => (p, last)
  | fuel + 1, v, p, last =>
    if v < p.stack.headCount then
      let (p, last) := advanceFully text v steps p last
      advanceAll text steps fuel (v + 1) p last
    else (p, last)

private def swap (s : Stack) (a b : Nat) : Stack :=
  (s.setHead a (s.head b)).setHead b (s.head a)

/-- Lets reading `i`, of standing `mine`, compete with those before it from number `j` on. -/
private def compete (mine : Stack.Standing) : Nat → Nat → Nat → Stack → Stack
  | 0, _, _, s => s
  | fuel + 1, j, i, s =>
    if i ≤ j then s
    else
      let s := s.settle j
      match (s.standing j).compare mine with
      | .takeLeft => s.remove i
      | .takeRight => compete mine fuel j (i - 1) (s.remove j)
      | .preferRight =>
        match s.merge? j i with
        | some s => s
        | none => compete mine fuel (j + 1) i (swap s i j)
      | _ =>
        match s.merge? j i with
        | some s => s
        | none => compete mine fuel (j + 1) i s

private def least (a : Option Nat) (b : Nat) : Option Nat := some ((a.map (min b)).getD b)

private def condenseFrom : Nat → Nat → Option Nat → Stack → Stack × Option Nat
  | 0, _, cost, s => (s, cost)
  | fuel + 1, i, cost, s =>
    if s.headCount ≤ i then (s, cost)
    else if s.isHalted i then condenseFrom fuel i cost (s.remove i)
    else
      let s := s.settle i
      let mine := s.standing i
      let cost := if mine.inError then cost else least cost mine.cost
      let before := s.headCount
      let s := compete mine (i + 1) 0 i s
      condenseFrom fuel (i + 1 - (before - s.headCount)) cost s

private def resume : Nat → Nat → Nat → Bool → Option Nat → Parser → Parser × Option Nat
  | 0, _, _, _, cost, p => (p, cost)
  | fuel + 1, i, count, resumed, cost, p =>
    if count ≤ i then (p, cost)
    else
      match (p.stack.head i).status with
      | .paused lookahead =>
        if !resumed ∧ p.finishedCount < maxVersions then
          let cost := some (p.stack.errorCost i)
          let s := (p.stack.setStatus i .active).enterError i lookahead.info.leaf
          resume fuel (i + 1) count true cost ({ p with stack := s }.recover i lookahead)
        else
          resume fuel i (count - 1) resumed cost { p with stack := p.stack.remove i }
      | _ => resume fuel (i + 1) count true cost p

/-- Gives up the readings that are clearly worse than others, and lets one that is stuck go on if
there is no other. The least cost among the readings comes back. -/
private def condense (p : Parser) : Parser × Option Nat :=
  let count := p.stack.headCount
  let (s, cost) := condenseFrom (2 * count + 1) 0 none p.stack
  let s := { s with heads := s.heads.take maxVersions }
  resume s.headCount 0 s.headCount false cost { p with stack := s }

private def parseFrom (text : Indexed) (steps : Nat) : Nat → Parser → Nat → Option Subtree
  | 0, _, _ => none
  | fuel + 1, p, last =>
    let (p, last) := advanceAll text steps steps 0 p last
    let ended := p.stack.headCount == 0
    let (p, cost) := condense p
    let decided : Bool := match p.finished, cost with
      | some t, some c => t.cost < c
      | some _, none => true
      | none, _ => false
    if decided || ended then p.finished else parseFrom text steps fuel p last

end Parser

/-- The best reading of a text. -/
def parse (text : List Char) : Option Subtree :=
  let t := Indexed.ofList text
  let steps := 64 * (t.length + 16)
  Parser.parseFrom t steps steps .initial 0

end TypeScriptRepl.Syntax
