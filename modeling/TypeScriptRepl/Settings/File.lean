import TypeScriptRepl.FileSystem.Operations
import TypeScriptRepl.Report.ErrorChain
import TypeScriptRepl.Settings.Toml

/-! Files with settings: the nearest one above a directory counts, or else the one of the user. -/
namespace TypeScriptRepl.Settings

open FileSystem

def fileName : String := "ts-repl.toml"

/-- A path with its parents, from the path on. `n` bounds their number. -/
def upwards : Nat → Path → List Path
  | 0, _ => []
  | n + 1, p =>
    match p.parent? with
    | some parent => p :: upwards n parent
    | none => [p]

/-- Where settings for a directory are looked for. -/
def candidates (home : Option Path) (start : Path) : List Path :=
  (upwards (start.bytes.length + 1) start).map (·.child fileName) ++
    (home.map fun h => ((h.child ".config").child "ts-repl").child fileName).toList

/-- The file with the settings for a directory. -/
def find? (fs : FileSystem) (directory : Location) (home : Option Path) (start : Path) : Option Path :=
  (candidates home start).find? (fs.isFile directory)

/-- Why a file gives no settings. -/
inductive FileError where
  | unreadable (path : Path) (f : Fault)
  | invalid (path : Path) (source : String) (e : TomlError)
deriving Repr, DecidableEq, Inhabited

namespace FileError

def message : FileError → String
  | unreadable path _ => "cannot read '" ++ path.display ++ "'"
  | invalid path _ _ => "invalid toml in '" ++ path.display ++ "'"

def cause : FileError → String
  | unreadable _ f => f.message
  | invalid _ source e => e.report source

def chain (e : FileError) : Report.ErrorChain := (Report.ErrorChain.of e.message).causedBy e.cause

end FileError

/-- The settings in a file, whose text may be unreadable. -/
def ofFile (p : Path) (text : Except Fault String) : Except FileError Settings := do
  let source ← text.mapError (.unreadable p)
  (ofToml source).mapError (.invalid p source)

def load (fs : FileSystem) (directory : Location) (p : Path) : Except FileError Settings :=
  ofFile p (fs.readText directory p)

end TypeScriptRepl.Settings
