import TypeScriptRepl.CommandLine.Parse
import TypeScriptRepl.Harness.Basic
import TypeScriptRepl.Report.Diagnostic
import TypeScriptRepl.Session.HarnessFile
import TypeScriptRepl.Session.Launch
import TypeScriptRepl.Session.Variables
import TypeScriptRepl.Settings.File

/-!
One run of the program, from its command line to its exit code: it finds its settings, makes the
harness of the source file, runs it and removes it.
-/
namespace TypeScriptRepl.Session

open FileSystem Text

/-- How a command ended: by itself, or by a signal. -/
inductive Status where
  | exited (code : Nat)
  | signalled (signal : Nat)
deriving Repr, DecidableEq, Inhabited

def Status.exitCode : Status → Nat
  | exited code => code
  | signalled _ => 1

/-- What was written, what the exit code is, and which files there are then. -/
structure Outcome where
  status : Status
  stdout : List UInt8
  stderr : List UInt8
  files : FileSystem
deriving Repr, DecidableEq, Inhabited

/-- A command that is started, with all its variables, in a directory. -/
structure Process where
  program : String
  arguments : List (List UInt8)
  environment : Variables
  directory : Location
deriving Repr, DecidableEq, Inhabited

/-- What surrounds a run: the directory in which it starts, the program file, its variables, the home
directory of the user, the time in milliseconds, the disk, and what comes of starting a command. -/
structure Surroundings where
  directory : Location
  executable : Path
  environment : Variables
  userHome : Path
  millis : Int
  disk : Disk
  start : Process → FileSystem → Except Fault Outcome

namespace Surroundings

def home (s : Surroundings) : Path := s.environment.home s.userHome

def color (s : Surroundings) : Bool := s.environment.color

/-- The file of the history, if the user chose it. -/
def history? (s : Surroundings) : Option Path :=
  History.override? (some s.home) (s.environment.text? Harness.Options.standard.historyVariable)

/-- The text of a file, if it can be read. -/
def readText (s : Surroundings) (fs : FileSystem) (p : Path) : Except Fault String :=
  s.disk.readText s.directory p fs

end Surroundings

/-- The bytes of what is written. -/
def utf8 (s : String) : List UInt8 := Utf8.encode s.toList

/-- Why a run ends without a session. -/
inductive Failure where
  | error (e : Report.ErrorChain)
  | source (e : ParseError) (text : String)
deriving Repr, DecidableEq, Inhabited

/-- What a failed run says. `file` is the source file as the command line names it. -/
def Failure.text (color : Bool) (file : String) : Failure → String
  | error e => e.render color ++ "\n"
  | source e text =>
    (Report.Diagnostic.ofError e text file).render color ++
      Report.red color "error:" ++ " could not prepare '" ++ file ++ "' for the REPL\n"

/-- The settings, and a warning if a file with settings was found that gives none. -/
def settingsFor (s : Surroundings) (c : CommandLine) (fs : FileSystem) :
    Except Failure (Settings × String) :=
  match c.config with
  | some p => ((Settings.ofFile p (s.readText fs p)).map (·, "")).mapError (.error ·.chain)
  | none =>
    match Settings.find? fs s.directory (some s.home) s.directory.path with
    | none => .ok (.standard, "")
    | some p =>
      match Settings.ofFile p (s.readText fs p) with
      | .ok settings => .ok (settings, "")
      | .error e => .ok (.standard, Report.yellow s.color "warning:" ++ " " ++
          (e.chain.causedBy "using default settings").text ++ "\n")

/-- The source file, as a path from the root, and its text. -/
def sourceFor (s : Surroundings) (c : CommandLine) (fs : FileSystem) : Except Failure (Path × String) :=
  let file := c.file.display
  match fs.locate s.directory c.file with
  | .error f => .error (.error ((Report.ErrorChain.of f.message).context ("file not found: " ++ file)))
  | .ok l =>
    if !fs.isFile s.directory l.path then
      .error (.error (.of ("not a file: " ++ l.path.display)))
    else
      match s.readText fs l.path with
      | .error f => .error (.error ((Report.ErrorChain.of f.message).context
          ("cannot read file '" ++ Report.bold s.color file ++ "'")))
      | .ok text => .ok (l.path, text)

/-- The command line that runs the program again, if all of it is text. -/
def reloadCommand (s : Surroundings) (words : List CommandLine.Word) : Option (List String) :=
  (s.executable.bytes :: words).mapM fun w => (Utf8.decode? w).map String.ofList

/-- What a session is told. -/
def optionsFor (s : Surroundings) (words : List CommandLine.Word) (settings : Settings) :
    Harness.Options :=
  { Harness.Options.standard with
    prompt := settings.harness.prompt
    reloadCommand := if settings.harness.reload then reloadCommand s words else none }

/-- The command that runs a harness, as it is started. -/
def processFor (s : Surroundings) (settings : Settings) (h : HarnessFile) : Process :=
  let l := Launch.of settings.runner settings.compilerOptions s.history? h.path
  ⟨l.program, l.arguments, s.environment ++ l.environment, s.directory⟩

/-- Runs a harness that has been written, and removes it. -/
def session (s : Surroundings) (settings : Settings) (h : HarnessFile) (fs : FileSystem) : Outcome :=
  let opening := "compiling...\n" ++ h.path.display ++ "\n"
  match s.start (processFor s settings h) fs with
  | .error f =>
    let command := settings.runner.command
    let e := if f = .notFound then LaunchError.notFound command f.message
      else LaunchError.notStarted command f.message
    ⟨.exited 1, utf8 opening, utf8 ((Failure.error e.chain).text s.color ""), h.close s.directory fs⟩
  | .ok o =>
    let kept := if h.keep then
        Report.statusLabel s.color "Kept" ++ " " ++ Report.gray s.color h.path.display ++ "\n"
      else ""
    ⟨.exited o.status.exitCode, utf8 opening ++ o.stdout, o.stderr ++ utf8 kept,
      h.close s.directory o.files⟩

/-- What follows once the source file has been read. -/
def withSource (s : Surroundings) (words : List CommandLine.Word) (c : CommandLine)
    (settings : Settings) (path : Path) (text : String) (fs : FileSystem) : Outcome :=
  let fail (f : Failure) (fs : FileSystem) : Outcome :=
    ⟨.exited 1, [], utf8 (f.text s.color c.file.display), fs⟩
  match Harness.prepare text (optionsFor s words settings) with
  | .error e => fail (.source e text) fs
  | .ok harness =>
    if c.has .print then ⟨.exited 0, utf8 harness.text, [], fs⟩
    else
      match HarnessFile.write s.disk s.directory s.environment.temp path settings.harness.placement
          settings.harness.keep s.millis (utf8 harness.text) fs with
      | (fs, .error f) =>
        fail (.error ((Report.ErrorChain.of f.message).context "cannot write the harness file")) fs
      | (fs, .ok h) => session s settings h fs

/-- What follows once the command line has been read. -/
def invoke (s : Surroundings) (words : List CommandLine.Word) (c : CommandLine) (fs : FileSystem) :
    Outcome :=
  let fail (f : Failure) : Outcome := ⟨.exited 1, [], utf8 (f.text s.color c.file.display), fs⟩
  match settingsFor s c fs with
  | .error f => fail f
  | .ok (settings, warning) =>
    let o := match sourceFor s c fs with
      | .error f => fail f
      | .ok (path, text) => withSource s words c (c.apply settings) path text fs
    { o with stderr := utf8 warning ++ o.stderr }

/-- A run of the program with the words after its name. -/
def run (s : Surroundings) (words : List CommandLine.Word) (fs : FileSystem) : Outcome :=
  match CommandLine.parse words with
  | .ok c => invoke s words c fs
  | .error e =>
    let text := utf8 (e.text (CommandLine.nameOf (some s.executable.bytes)))
    if e.exitCode = 0 then ⟨.exited 0, text, [], fs⟩ else ⟨.exited e.exitCode, [], text, fs⟩

end TypeScriptRepl.Session
