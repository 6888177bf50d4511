import TypeScriptRepl.Text.Utf8

/-!
Paths of files. A path is a sequence of bytes, which slashes part. Segments that are empty or a single
dot name nothing, except for a dot at the beginning.
-/
namespace TypeScriptRepl

open Text

structure Path where
  bytes : List UInt8
deriving Repr, DecidableEq, Inhabited

namespace Path

def slash : UInt8 := 47

def dot : UInt8 := 46

def ofString (s : String) : Path := ⟨Utf8.encode s.toList⟩

/-- The path as text, if it is text. -/
def toString? (p : Path) : Option String := (Utf8.decode? p.bytes).map String.ofList

/-- What the path shows as. -/
def display (p : Path) : String := String.ofList (Utf8.decodeLossy p.bytes)

def empty : Path := ⟨[]⟩

def isEmpty (p : Path) : Bool := p.bytes.isEmpty

def isAbsolute (p : Path) : Bool := p.bytes.head? = some slash

/-- The path that `q` is when it starts from `p`. -/
def join (p q : Path) : Path :=
  if q.isAbsolute then q
  else if p.isEmpty || p.bytes.getLast? = some slash then ⟨p.bytes ++ q.bytes⟩
  else ⟨p.bytes ++ slash :: q.bytes⟩

/-- The path of a name in a directory. -/
def child (p : Path) (name : String) : Path := p.join (ofString name)

/-- The segments of a path, the first of which begins with the reverse of `segment`. -/
def split : List UInt8 → List UInt8 → List (List UInt8)
  | [], segment => [segment.reverse]
  | b :: rest, segment =>
    if b = slash then segment.reverse :: split rest [] else split rest (b :: segment)

/-- The segments between the slashes. -/
def segments (bytes : List UInt8) : List (List UInt8) := split bytes []

/-- Whether a segment names something. -/
def isNamed (segment : List UInt8) : Bool := !segment.isEmpty && segment != [dot]

/-- The slash or the dot that a path begins with, and the rest. -/
def parts (p : Path) : List UInt8 × List UInt8 :=
  match p.bytes with
  | [] => ([], [])
  | a :: rest =>
    if a = slash then ([slash], rest)
    else if a = dot && (rest.isEmpty || rest.head? = some slash) then ([dot], rest)
    else ([], a :: rest)

/-- What a path goes through. -/
inductive Component where
  | root
  | here
  | up
  | named (segment : List UInt8)
deriving Repr, DecidableEq, Inhabited

private def ofSegment (segment : List UInt8) : Component :=
  if segment = [dot, dot] then .up else .named segment

def components (p : Path) : List Component :=
  let (lead, body) := p.parts
  (if lead = [slash] then [.root] else if lead = [dot] then [.here] else []) ++
    ((segments body).filter isNamed).map ofSegment

/-- The segments of a path up to the last one that names something, from the last one on. -/
private def trimmed (body : List UInt8) : List (List UInt8) :=
  (segments body).reverse.dropWhile (!isNamed ·)

/-- The path without its last component. The root has no parent, and neither has the empty path. -/
def parent? (p : Path) : Option Path :=
  let (lead, body) := p.parts
  match trimmed body with
  | [] => if lead = [dot] then some empty else none
  | _ :: before =>
    some ⟨lead ++ [slash].intercalate (before.dropWhile (!isNamed ·)).reverse⟩

/-- The name at the end of a path. -/
def fileName? (p : Path) : Option (List UInt8) :=
  match p.components.getLast? with
  | some (.named segment) => some segment
  | _ => none

end Path
end TypeScriptRepl
