import TypeScriptRepl.Shell.Parse
import TypeScriptRepl.Shell.Program

/-! Running scripts. Fuel bounds how many commands are run. -/
namespace TypeScriptRepl.Shell

open FileSystem

/-- Whether a script goes on after a command, and how it ends if it does not. -/
inductive Flow where
  | next
  | exit (code : Nat)
  | killed (signal : Nat)
deriving Repr, DecidableEq, Inhabited

/-- What comes of starting the program that started the script, with arguments, if it can be started. -/
abbrev Again := State → List Bytes → Option Result

/-- Where what is written goes. -/
private inductive Sink where
  | stdout
  | stderr
  | file (l : Location)
  | nowhere
deriving DecidableEq

private def State.emit (s : State) (sink : Sink) (b : Bytes) : State :=
  match sink with
  | .stdout => { s with stdout := s.stdout ++ b }
  | .stderr => { s with stderr := s.stderr ++ b }
  | .nowhere => s
  | .file l =>
    match s.files.node? l with
    | some (.file content executable) =>
      { s with files := s.files.put l (.file (content ++ b) executable) }
    | _ => s

private def complain (s : State) (line : Nat) (what : Bytes) : State :=
  { s with stderr := s.stderr ++ s.name ++ bytesOf (": " ++ toString line ++ ": ") ++ what ++ [10] }

private def openFile (s : State) (append : Bool) (p : Path) : Except Fault (State × Sink) :=
  if p = .ofString "/dev/null" then .ok (s, .nowhere)
  else
    match s.files.create s.directory p with
    | .ok (files, l) => .ok ({ s with files }, .file l)
    | .error .alreadyThere => do
      let l ← s.files.locate s.directory p
      if s.files.isDirectory l then .error .isDirectory
      else return (if append then s else { s with files := s.files.write l [] }, .file l)
    | .error e => .error e

/-- The sinks of both outputs after redirections. None if one of them fails. -/
private def redirect (line : Nat) : List Redirection → State → Sink → Sink →
    State × Option (Sink × Sink)
  | [], s, out, err => (s, some (out, err))
  | r :: rest, s, out, err =>
    match r with
    | .input _ => redirect line rest s out err
    | .same d as_ =>
      let sink := if as_ = 2 then err else out
      if d = 2 then redirect line rest s out sink else redirect line rest s sink err
    | .file d append target =>
      let name := field s target
      match openFile s append ⟨name⟩ with
      | .ok (s, sink) =>
        if d = 2 then redirect line rest s out sink else redirect line rest s sink err
      | .error e => (complain s line (bytesOf "cannot create " ++ name ++ bytesOf (": " ++ e.message)), none)

private def text (b : Bytes) : String := String.ofList (b.map fun b => Char.ofNat b.toNat)

private def signals : List (String × Nat) :=
  [("HUP", 1), ("INT", 2), ("QUIT", 3), ("ABRT", 6), ("KILL", 9), ("USR1", 10), ("SEGV", 11),
    ("USR2", 12), ("PIPE", 13), ("ALRM", 14), ("TERM", 15)]

private def signal? (s : String) : Option Nat :=
  s.toNat?.or ((signals.find? fun (name, _) => name = s ∨ "SIG" ++ name = s).map (·.2))

/-- The signal that a script sends to itself. -/
private def killed? (args : List Bytes) : Option Nat :=
  let self := toString State.processNumber
  match args.map text with
  | [p] => if p = self then some 15 else none
  | ["-s", name, p] => if p = self then signal? name else none
  | [sig, p] => if p = self then signal? (sig.drop 1).toString else none
  | _ => none

private def assign (s : State) (p : String × Word) : State :=
  { s with environment := s.environment ++ [(p.1, field s p.2)] }

private def special (line : Nat) (s : State) (name : String) (args : List Bytes) : Option (State × Flow) :=
  match name, args with
  | "exit", [] => some (s, .exit s.status)
  | "exit", a :: _ =>
    match (text a).toNat? with
    | some n => some ({ s with status := n % 256 }, .exit (n % 256))
    | none => some (complain s line (bytesOf "exit: Illegal number: " ++ a), .exit 2)
  | "kill", args => (killed? args).bind fun n => if n = 0 then none else some (s, .killed n)
  | "shift", _ => some ({ s with arguments := s.arguments.tail, status := 0 }, .next)
  | "set", _ | "trap", _ | "unset", _ => some ({ s with status := 0 }, .next)
  | "ulimit", [what, limit] =>
    if what = bytesOf "-f" ∧ limit = bytesOf "0" then
      some ({ s with limited := true, status := 0 }, .next)
    else none
  | "export", args =>
    let assigned := args.filterMap fun a =>
      match a.dropWhile (· ≠ 61) with
      | _ :: value => some (text (a.takeWhile (· ≠ 61)), value)
      | [] => none
    some ({ s with environment := s.environment ++ assigned, status := 0 }, .next)
  | "cd", a :: _ =>
    match s.files.locate s.directory ⟨a⟩ with
    | .ok l => some ({ s with directory := l, status := 0 }, .next)
    | .error _ => some ({ complain s line (bytesOf "cd: can't cd to " ++ a) with status := 2 }, .next)
  | _, _ => none

private def runSimple (again : Again) (line : Nat) (assignments : List (String × Word))
    (words : List Word) (redirections : List Redirection) (s : State) : State × Flow :=
  match redirect line redirections s .stdout .stderr with
  | (s, none) => ({ s with status := 2 }, .next)
  | (s, some (out, err)) =>
    let (last, words) := match fields s words with
      | w :: c :: rest => if w = bytesOf "exec" then (true, c :: rest) else (false, w :: c :: rest)
      | ws => (false, ws)
    match words with
    | [] => ({ assignments.foldl assign s with status := 0 }, .next)
    | c :: args =>
      match special line s (text c) args with
      | some r => r
      | none =>
        let result :=
          if c = State.parentProgram then again (assignments.foldl assign s) args
          else program? s (text c) args
        match result with
        | some r =>
          let s := (({ s with files := r.files, status := r.code }).emit out r.stdout).emit err r.stderr
          (s, if last then .exit r.code else .next)
        | none =>
          let s := complain s line (c ++ bytesOf ": not found")
          ({ s with status := 127 }, if last then .exit 127 else .next)

/-- The state after a command, if fuel is enough. -/
private def runCommand (again : Again) : Nat → Command → State → Option (State × Flow)
  | 0, _, _ => none
  | n + 1, c, s =>
    match c with
    | .skip => some (s, .next)
    | .simple line assignments words redirections =>
      some (runSimple again line assignments words redirections s)
    | .sequence a b => do
      match ← runCommand again n a s with
      | (s, .next) => runCommand again n b s
      | r => return r
    | .andThen a b => do
      match ← runCommand again n a s with
      | (s, .next) => if s.status = 0 then runCommand again n b s else return (s, .next)
      | r => return r
    | .orElse a b => do
      match ← runCommand again n a s with
      | (s, .next) => if s.status = 0 then return (s, .next) else runCommand again n b s
      | r => return r
    | .negation a => do
      match ← runCommand again n a s with
      | (s, .next) => return ({ s with status := if s.status = 0 then 1 else 0 }, .next)
      | r => return r
    | .choice condition yes no => do
      match ← runCommand again n condition s with
      | (s, .next) =>
        if s.status = 0 then runCommand again n yes { s with status := 0 }
        else runCommand again n no { s with status := 0 }
      | r => return r
    | .while_ condition body => do
      match ← runCommand again n condition s with
      | (s, .next) =>
        if s.status = 0 then
          match ← runCommand again n body s with
          | (s, .next) => runCommand again n (.while_ condition body) s
          | r => return r
        else return ({ s with status := 0 }, .next)
      | r => return r
    | .each name words body =>
      let values := match words with
        | some ws => fields s ws
        | none => s.arguments
      values.foldlM
        (fun (s, flow) v =>
          match flow with
          | .next => runCommand again n body { s with environment := s.environment ++ [(name, v)] }
          | flow => some (s, flow))
        (s, Flow.next)

/-- How many commands a script may nest and repeat. -/
def maxCommands : Nat := 10000

/-- Runs a script. One that does not end has no result. -/
def runScript (again : Again) (script : Bytes) (s : State) : Option (State × Flow) :=
  match parse? script with
  | none => some ({ complain s 1 (bytesOf "Syntax error") with status := 2 }, .exit 2)
  | some c => do
    match ← runCommand again maxCommands c s with
    | (s, .next) => return (s, .exit s.status)
    | r => return r

end TypeScriptRepl.Shell
