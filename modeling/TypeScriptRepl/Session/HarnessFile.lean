import TypeScriptRepl.FileSystem.Operations
import TypeScriptRepl.Session.HarnessPath

/-! Harnesses on disk: they are written before a session and removed after it, unless they are kept. -/
namespace TypeScriptRepl.Session

open FileSystem

/-- A harness that has been written. -/
structure HarnessFile where
  path : Path
  keep : Bool
deriving Repr, DecidableEq, Inhabited

/-- What the disk refuses, besides what the files on it forbid: to read a file, to make a directory or
the file of a harness, or to take more than a number of bytes as its content. -/
structure Disk where
  unreadable : Path → Option Fault
  directory : Location → Option Fault
  file : Option Fault
  content : Option (Nat × Fault)
deriving Inhabited

namespace Disk

/-- A disk that refuses nothing. -/
def sound : Disk := ⟨fun _ => none, fun _ => none, none, none⟩

/-- The text of a file, if the disk gives it. -/
def readText (d : Disk) (directory : Location) (p : Path) (fs : FileSystem) : Except Fault String :=
  match d.unreadable p with
  | some f => .error f
  | none => fs.readText directory p

end Disk

namespace HarnessFile

/-- Makes the directory of temporary harnesses, as far as it is not there. -/
def openDirectory (d : Disk) (directory : Location) (p : Path) (placement : Placement)
    (fs : FileSystem) : FileSystem × Option Fault :=
  match placement with
  | .sibling => (fs, none)
  | .temp => makeDirectories d.directory (p.bytes.length + 1) fs directory p

/-- Makes the file of a harness. There must be nothing of its name. -/
def create (d : Disk) (directory : Location) (p : Path) (fs : FileSystem) :
    Except Fault (FileSystem × Location) :=
  match d.file with
  | some f => .error f
  | none => fs.create directory p

/-- Writes a text into the file, or what the disk takes of it. -/
def fill (d : Disk) (l : Location) (text : List UInt8) (fs : FileSystem) :
    FileSystem × Option Fault :=
  match d.content with
  | some (n, f) => (fs.write l (text.take n), some f)
  | none => (fs.write l text, none)

/-- Writes a harness of a source at a time, and says which files there are then. -/
def write (d : Disk) (directory : Location) (temp source : Path) (placement : Placement) (keep : Bool)
    (millis : Int) (text : List UInt8) (fs : FileSystem) : FileSystem × Except Fault HarnessFile :=
  let parent := harnessDirectory temp source placement
  let path := parent.child (harnessName source millis)
  match openDirectory d directory parent placement fs with
  | (fs, some f) => (fs, .error f)
  | (fs, none) =>
    match create d directory path fs with
    | .error f => (fs, .error f)
    | .ok (fs, l) =>
      match fill d l text fs with
      | (fs, some f) => (fs, .error f)
      | (fs, none) => (fs, .ok ⟨path, keep⟩)

/-- Removes the harness, unless it is kept. One that is not there any more is no matter. -/
def close (h : HarnessFile) (directory : Location) (fs : FileSystem) : FileSystem :=
  if h.keep then fs
  else
    match fs.removeFile directory h.path with
    | .ok fs => fs
    | .error _ => fs

end HarnessFile
end TypeScriptRepl.Session
