import TypeScriptRepl.FileSystem.Basic

/-! What a program does with files. Relative paths start from `directory`. -/
namespace TypeScriptRepl.FileSystem

open Text

def isFile (fs : FileSystem) (directory : Location) (p : Path) : Bool :=
  match fs.locate directory p with
  | .ok l => (fs.node? l).isSome && !fs.isDirectory l
  | .error _ => false

def read (fs : FileSystem) (directory : Location) (p : Path) : Except Fault (List UInt8) := do
  match fs.node? (← fs.locate directory p) with
  | some (.file content _) => return content
  | _ => .error .isDirectory

def readText (fs : FileSystem) (directory : Location) (p : Path) : Except Fault String := do
  match Utf8.decode? (← fs.read directory p) with
  | some cs => return String.ofList cs
  | none => .error .notText

/-- Makes a directory where there is nothing. `refuses` says which directories the disk does not take,
and why. -/
def makeDirectory (refuses : Location → Option Fault) (fs : FileSystem) (directory : Location)
    (p : Path) : Except Fault FileSystem := do
  let l ← fs.place directory p
  if (fs.node? l).isSome then .error .alreadyThere
  else
    match refuses l with
    | some f => .error f
    | none => return fs.add l .directory

/-- No fault where there is a directory already. -/
def unlessDirectory (fs : FileSystem) (directory : Location) (p : Path) (f : Fault) : Option Fault :=
  match fs.locate directory p with
  | .ok l => if fs.isDirectory l then none else some f
  | .error _ => some f

/-- Makes a directory and those that it is in, as far as they are not there; those that were made
before a fault stay. `n` bounds their number. -/
def makeDirectories (refuses : Location → Option Fault) :
    Nat → FileSystem → Location → Path → FileSystem × Option Fault
  | 0, fs, _, _ => (fs, some .noParent)
  | n + 1, fs, directory, p =>
    if p.isEmpty then (fs, none)
    else
      match fs.makeDirectory refuses directory p with
      | .ok fs => (fs, none)
      | .error .notFound =>
        match p.parent? with
        | none => (fs, some .noParent)
        | some parent =>
          match makeDirectories refuses n fs directory parent with
          | (fs, some f) => (fs, some f)
          | (fs, none) =>
            match fs.makeDirectory refuses directory p with
            | .ok fs => (fs, none)
            | .error f => (fs, fs.unlessDirectory directory p f)
      | .error f => (fs, fs.unlessDirectory directory p f)

/-- Makes an empty file where there is nothing. -/
def create (fs : FileSystem) (directory : Location) (p : Path) :
    Except Fault (FileSystem × Location) := do
  let l ← fs.place directory p
  if (fs.node? l).isSome then .error .alreadyThere else return (fs.add l (.file [] false), l)

/-- Replaces the content of a file. -/
def write (fs : FileSystem) (l : Location) (content : List UInt8) : FileSystem :=
  match fs.node? l with
  | some (.file _ executable) => fs.put l (.file content executable)
  | _ => fs

/-- Puts a file or directory at a location, with the directories that it is in. A directory that is
there stays as it is. -/
def install (fs : FileSystem) (l : Location) (n : Node) : FileSystem :=
  let parents := (List.range l.length).map (l.take ·)
  let fs := parents.foldl (fun fs p => if (fs.node? p).isSome then fs else fs.add p .directory) fs
  match fs.node? l with
  | some _ => if n = .directory then fs else fs.put l n
  | none => fs.add l n

def removeFile (fs : FileSystem) (directory : Location) (p : Path) : Except Fault FileSystem := do
  let l ← fs.locate directory p
  if fs.isDirectory l then .error .isDirectory else return fs.erase l

end TypeScriptRepl.FileSystem
