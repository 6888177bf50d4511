import TypeScriptRepl.Shell.Start
import Std.Time.Format

/-!
The command line. The files that a run looks at are read before it, and those that it changes are
written after it.
-/
namespace TypeScriptRepl.CommandLine

open FileSystem Session Text

/-- The variables that a run looks at. -/
def variableNames : List String :=
  ["HOME", "TMPDIR", "PATH", "NO_COLOR", Harness.Options.standard.historyVariable]

/-- The files that decide on the settings, and the source file. -/
def inputs (s : Surroundings) (c : CommandLine) : List Path :=
  c.file :: (c.config.map ([·])).getD (Settings.candidates (some s.home) s.directory.path)

/-- The places of the command that runs the harness, and the directory of temporary files. -/
def tools (s : Surroundings) (c : CommandLine) (fs : FileSystem) : List Path :=
  match settingsFor s c fs with
  | .ok (settings, _) => s.environment.temp :: Shell.places settings.runner.command s.environment
  | .error _ => []

/-- The locations that names lead through. -/
def locations : List Name → Location → List Location
  | [], _ => []
  | n :: rest, l =>
    let next := if n = here then l else if n = up then l.dropLast else l ++ [n]
    next :: locations rest next

/-- What is on the disk at a location. A file with an interpreter in its first line can be executed. -/
def nodeOnDisk? (l : Location) : IO (Option Node) := do
  let some name := l.path.toString? | return none
  try
    let file ← IO.FS.realPath name
    if ← file.isDir then return some .directory
    let content := (← IO.FS.readBinFile file).toList
    return some (.file content (content.take 2 = "#!".toUTF8.toList))
  catch _ => return none

/-- Adds what is on the disk at a path, and on the way to it. -/
def load (s : Surroundings) (fs : FileSystem) (p : Path) : IO FileSystem :=
  (locations (namesOf p) (if p.isAbsolute then [] else s.directory)).foldlM
    (fun fs l => return ((← nodeOnDisk? l).map (fs.install l)).getD fs) fs

/-- Changes the disk as a run has changed the files. -/
def store (before after : FileSystem) : IO Unit := do
  for (l, n) in after.nodes do
    if before.node? l ≠ some n then
      if let some name := l.path.toString? then
        match n with
        | .directory => IO.FS.createDirAll name
        | .file content _ => IO.FS.writeBinFile name ⟨content.toArray⟩
  for (l, n) in before.nodes do
    if (after.node? l).isNone then
      if let some name := l.path.toString? then
        if n = .directory then IO.FS.removeDir name else IO.FS.removeFile name

/-- What surrounds this run. -/
def surroundings : IO Surroundings := do
  let environment ← variableNames.filterMapM fun name => do
    return (← IO.getEnv name).map fun value => (name, Utf8.encode value.toList)
  return ⟨namesOf (.ofString (← IO.currentDir).toString), .ofString (← IO.appPath).toString, environment,
    .ofString "/", (← Std.Time.Timestamp.now).toMillisecondsSinceUnixEpoch.val, .sound, Shell.start⟩

/-- Runs the program and says what its exit code is. -/
def execute (words : List String) : IO UInt32 := do
  let s ← surroundings
  let words := words.map fun w => Utf8.encode w.toList
  let before ← match parse words with
    | .error _ => pure ⟨[]⟩
    | .ok c => do
      let fs ← (inputs s c).foldlM (load s) ((⟨[]⟩ : FileSystem).install s.directory .directory)
      (tools s c fs).foldlM (load s) fs
  let o := Session.run s words before
  store before o.files
  (← IO.getStdout).write ⟨o.stdout.toArray⟩
  (← IO.getStderr).write ⟨o.stderr.toArray⟩
  return o.status.exitCode.toUInt32

end TypeScriptRepl.CommandLine

def main (words : List String) : IO UInt32 := TypeScriptRepl.CommandLine.execute words
