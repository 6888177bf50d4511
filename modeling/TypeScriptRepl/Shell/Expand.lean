import TypeScriptRepl.FileSystem.Basic
import TypeScriptRepl.Session.Variables
import TypeScriptRepl.Shell.Script

/-! What words of a script stand for. -/
namespace TypeScriptRepl.Shell

/-- What a script knows: its variables, its name and arguments, the status of its last command, what it
wrote, and the files; and whether it asked that no file may grow. -/
structure State where
  environment : Session.Variables
  name : Bytes
  arguments : List Bytes
  status : Nat
  stdout : Bytes
  stderr : Bytes
  directory : FileSystem.Location
  files : FileSystem
  limited : Bool
deriving Repr, Inhabited

namespace State

/-- The number of the process. -/
def processNumber : Nat := 4242

/-- The number of the process that started the script. -/
def parentNumber : Nat := 4241

/-- Where a script finds the program that started it. -/
def parentProgram : Bytes := bytesOf ("/proc/" ++ toString parentNumber ++ "/exe")

private def blank : UInt8 := 32

def value? (s : State) (name : String) : Option Bytes :=
  match name with
  | "#" => some (bytesOf (toString s.arguments.length))
  | "?" => some (bytesOf (toString s.status))
  | "$" => some (bytesOf (toString processNumber))
  | "PPID" => some (bytesOf (toString parentNumber))
  | "@" | "*" => if s.arguments.isEmpty then none else some ([blank].intercalate s.arguments)
  | "0" => some s.name
  | name =>
    match name.toNat? with
    | some n => s.arguments[n - 1]?
    | none => s.environment.value? name

end State

/-- A part of a field. Blanks that are not quoted part fields; an open part is a field even if it is
empty. -/
private inductive Part where
  | bytes (b : Bytes) (quoted : Bool)
  | next

private def isFieldEnd (b : UInt8) : Bool := b = 32 || b = 9 || b = 10

mutual
private def parts (s : State) : List Piece → List Part
  | [] => []
  | p :: rest => piece s p ++ parts s rest

private def piece (s : State) : Piece → List Part
  | .text b quoted => [.bytes b quoted]
  | .parameter name quoted =>
    if name = "@" then
      (s.arguments.map fun a => Part.bytes a quoted).intersperse .next
    else [.bytes ((s.value? name).getD []) quoted]
  | .fallback name ifEmpty word quoted =>
    match s.value? name with
    | some v => if ifEmpty && v.isEmpty then parts s word else [.bytes v quoted]
    | none => parts s word
end

/-- Fields are built from the right; `open_` is the beginning of the field in hand, reversed. -/
private def split (literal : Bool) : Bytes → Option Bytes → List Bytes → Option Bytes × List Bytes
  | [], current, done => (current, done)
  | b :: rest, current, done =>
    if !literal && isFieldEnd b then
      match current with
      | some field => split literal rest none (field.reverse :: done)
      | none => split literal rest none done
    else split literal rest (some (b :: current.getD [])) done

private def gather : List Part → Option Bytes → List Bytes → List Bytes
  | [], current, done => ((current.map (·.reverse)).toList ++ done).reverse
  | .next :: rest, current, done => gather rest none ((current.map (·.reverse)).toList ++ done)
  | .bytes b quoted :: rest, current, done =>
    let current := if quoted then some (current.getD []) else current
    let (current, done) := split quoted b current done
    gather rest current done

/-- The fields of words. -/
def fields (s : State) (ws : List Word) : List Bytes := ws.flatMap fun w => gather (parts s w) none []

/-- A word that is one field. -/
def field (s : State) (w : Word) : Bytes :=
  (parts s w).flatMap fun
    | .bytes b _ => b
    | .next => [32]

end TypeScriptRepl.Shell
