import TypeScriptRepl.Session.Run
import TypeScriptRepl.Shell.Run

/-! Starting commands: scripts in files, and programs that are always there. -/
namespace TypeScriptRepl.Shell

open FileSystem
open Session (Disk Outcome Process Status)

/-- The directories in which programs are looked for if no variable tells. -/
def standardPath : String := "/usr/local/sbin:/usr/local/bin:/usr/sbin:/usr/bin:/sbin:/bin"

/-- The directories of the programs that are always there. -/
private def systemDirectories : List Bytes := ["/usr/bin", "/bin"].map bytesOf

private def systemPrograms : List Bytes :=
  ["echo", "printf", "cat", "rm", "touch", "mkdir", "pwd", "test", "true", "false", "sleep"].map bytesOf

private def shells : List Bytes := ["/bin/sh", "/usr/bin/sh", "/bin/bash", "/usr/bin/bash", "/bin/dash",
  "/usr/bin/dash"].map bytesOf

private def splitAt (separator : UInt8) : Bytes → Bytes → List Bytes
  | [], part => [part.reverse]
  | b :: rest, part =>
    if b = separator then part.reverse :: splitAt separator rest [] else splitAt separator rest (b :: part)

/-- What is started under a name: a program that is always there, or a file. -/
private inductive Image where
  | system (name : Bytes)
  | file (content : Bytes)

private def image (fs : FileSystem) (directory : Location) (p : Path) : Except Fault Image :=
  let system := systemDirectories.findSome? fun d =>
    systemPrograms.find? fun n => p.bytes = d ++ Path.slash :: n
  match system with
  | some n => .ok (.system n)
  | none => do
    match fs.node? (← fs.locate directory p) with
    | some (.file content true) => return .file content
    | _ => .error .denied

/-- Where a program is looked for. -/
def places (program : String) (environment : Session.Variables) : List Path :=
  let name := bytesOf program
  if name.contains Path.slash then [⟨name⟩]
  else if name.isEmpty then []
  else
    let directories := (environment.value? "PATH").getD (bytesOf standardPath)
    (splitAt 58 directories []).map fun d => (Path.mk d).join ⟨name⟩

/-- The first of the places that has the program counts. -/
private def search (fs : FileSystem) (directory : Location) :
    List Path → Bool → Except Fault (Path × Image)
  | [], denied => .error (if denied then .denied else .notFound)
  | p :: rest, denied =>
    match image fs directory p with
    | .ok i => .ok (p, i)
    | .error .denied => search fs directory rest true
    | .error .notFound | .error .notDirectory => search fs directory rest denied
    | .error f => .error f

private def find (p : Process) (fs : FileSystem) : Except Fault (Path × Image) :=
  let named : Path := ⟨bytesOf p.program⟩
  if named.bytes.contains Path.slash then (image fs p.directory named).map (named, ·)
  else search fs p.directory (places p.program p.environment) false

private def isShebang (content : Bytes) : Bool := content.take 2 = [35, 33]

/-- The command that interprets a script: the words of its first line. -/
private def interpreter (content : Bytes) : List Bytes :=
  (splitAt 32 ((content.drop 2).takeWhile (· ≠ 10)) []).flatMap fun w =>
    (splitAt 9 w []).filter (!·.isEmpty)

private def isShell (words : List Bytes) : Bool :=
  match words with
  | [w] => shells.contains w
  | [w, argument] =>
    shells.contains w || (w = bytesOf "/usr/bin/env" &&
      (argument = bytesOf "sh" || argument = bytesOf "bash" || argument = bytesOf "dash"))
  | _ => false

private def ended (s : State) (status : Status) : Outcome := ⟨status, s.stdout, s.stderr, s.files⟩

/-- What comes of starting a command. Scripts start the program again as `again` says. -/
private def startWith (again : Again) (p : Process) (fs : FileSystem) : Except Fault Outcome := do
  if (bytesOf p.program).contains 0 ∨ p.arguments.any (·.contains 0) then .error .nulInArgument
  let (path, i) ← find p fs
  let s : State := ⟨p.environment, path.bytes, p.arguments, 0, [], [], p.directory, fs, false⟩
  match i with
  | .system name =>
    match program? s (text name) p.arguments with
    | some r => return ⟨.exited r.code, r.stdout, r.stderr, r.files⟩
    | none => .error .notFound
  | .file content =>
    if !isShebang content then .error .wrongFormat
    else if !isShell (interpreter content) then .error .notFound
    else
      match runScript again content s with
      | some (s, .killed n) => return ended s (.signalled n)
      | some (s, .exit n) => return ended s (.exited n)
      | some (s, .next) => return ended s (.exited s.status)
      | none => return ended s (.signalled 9)
where
  text (b : Bytes) : String := String.ofList (b.map fun b => Char.ofNat b.toNat)

/-- The time at which scripts run, in milliseconds. -/
def millis : Int := 1700000000000

/-- The home directory of the user who runs scripts. -/
def userHome : Path := .ofString "/root"

/-- The disk of the program that a script starts. A script that limits the growth of files ignores the
signal that goes with it, so that writing is a fault. -/
private def disk (s : State) : Disk :=
  if s.limited then { Disk.sound with content := some (0, .tooLarge) } else .sound

/-- The program that started a script, started again by it: as deep as the number says. -/
private def again : Nat → Again
  | 0, _, _ => none
  | n + 1, s, args =>
    let o := Session.run ⟨s.directory, ⟨State.parentProgram⟩, s.environment, userHome, millis, disk s,
      startWith (again n)⟩ args s.files
    some ⟨o.status.exitCode, o.stdout, o.stderr, o.files⟩

/-- How deep runs of the program may nest. -/
def maxDepth : Nat := 100

/-- What comes of starting a command. -/
def start (p : Process) (fs : FileSystem) : Except Fault Outcome := startWith (again maxDepth) p fs

end TypeScriptRepl.Shell
