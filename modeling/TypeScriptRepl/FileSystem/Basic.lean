import TypeScriptRepl.FileSystem.Fault
import TypeScriptRepl.Path.Basic

/-! Files and directories, and what a path leads to. -/
namespace TypeScriptRepl

namespace FileSystem

/-- The name of a file in its directory. -/
abbrev Name := List UInt8

/-- The names from the root to a file. -/
abbrev Location := List Name

inductive Node where
  | file (content : List UInt8) (executable : Bool)
  | directory
deriving Repr, DecidableEq, Inhabited

end FileSystem

/-- Everything but the root, which is always a directory. -/
structure FileSystem where
  nodes : List (FileSystem.Location × FileSystem.Node)
deriving Repr, DecidableEq, Inhabited

namespace FileSystem

def node? (fs : FileSystem) : Location → Option Node
  | [] => some .directory
  | l => (fs.nodes.find? (·.1 = l)).map (·.2)

def isDirectory (fs : FileSystem) (l : Location) : Bool := fs.node? l = some .directory

/-- Adds a file or directory that is not there. -/
def add (fs : FileSystem) (l : Location) (n : Node) : FileSystem := ⟨fs.nodes ++ [(l, n)]⟩

/-- Replaces what is there. -/
def put (fs : FileSystem) (l : Location) (n : Node) : FileSystem :=
  ⟨fs.nodes.map fun e => if e.1 = l then (l, n) else e⟩

def erase (fs : FileSystem) (l : Location) : FileSystem := ⟨fs.nodes.filter (·.1 ≠ l)⟩

/-- How long a name may be, in bytes. -/
def maxName : Nat := 255

/-- How long a path may be, in bytes. -/
def maxPath : Nat := 4095

def here : Name := [Path.dot]

def up : Name := [Path.dot, Path.dot]

/-- Where names lead from a location. -/
def walk (fs : FileSystem) : List Name → Location → Except Fault Location
  | [], l => .ok l
  | n :: rest, l =>
    match fs.node? l with
    | none => .error .notFound
    | some (.file ..) => .error .notDirectory
    | some .directory =>
      if n = here then fs.walk rest l
      else if n = up then fs.walk rest l.dropLast
      else if maxName < n.length then .error .nameTooLong
      else if (fs.node? (l ++ [n])).isNone then .error .notFound
      else fs.walk rest (l ++ [n])

/-- The names in a path. One that ends with a slash leads to a directory, and on to this directory
itself. -/
def namesOf (p : Path) : List Name :=
  (Path.segments p.bytes).filter (!·.isEmpty) ++
    if 1 < p.bytes.length ∧ p.bytes.getLast? = some Path.slash then [here] else []

/-- Where a path starts. -/
def origin (directory : Location) (p : Path) : Location := if p.isAbsolute then [] else directory

/-- Whether a path may be looked up at all. -/
def checkPath (p : Path) : Except Fault Unit :=
  if p.bytes.contains 0 then .error .nulInPath
  else if p.isEmpty then .error .notFound
  else if maxPath < p.bytes.length then .error .nameTooLong
  else .ok ()

/-- What a path leads to from a directory. -/
def locate (fs : FileSystem) (directory : Location) (p : Path) : Except Fault Location := do
  checkPath p
  fs.walk (namesOf p) (origin directory p)

/-- Where a path leads, but for its last name, which need not be there. -/
def place (fs : FileSystem) (directory : Location) (p : Path) : Except Fault Location := do
  checkPath p
  match ((Path.segments p.bytes).filter (!·.isEmpty)).reverse with
  | [] => .error .alreadyThere
  | n :: before =>
    let l ← fs.walk before.reverse (origin directory p)
    if !fs.isDirectory l then .error .notDirectory
    else if n = here ∨ n = up then .error .alreadyThere
    else if maxName < n.length then .error .nameTooLong
    else return l ++ [n]

/-- The path from the root to a location. -/
def Location.path (l : Location) : Path := ⟨Path.slash :: [Path.slash].intercalate l⟩

end FileSystem
end TypeScriptRepl
