/-! JSON values. -/
namespace TypeScriptRepl

/-- A number that is not written as an integer keeps its text. -/
inductive Json where
  | null
  | bool (b : Bool)
  | integer (n : Int)
  | decimal (text : String)
  | string (s : String)
  | array (xs : List Json)
  | object (fields : List (String × Json))
deriving Repr, Inhabited

namespace Json

/-- The value under a key. Of several, the last one counts. -/
def get? (key : String) : Json → Option Json
  | object fields => (fields.reverse.find? (·.1 = key)).map (·.2)
  | _ => none

def bool? : Json → Option Bool
  | bool b => some b
  | _ => none

def string? : Json → Option String
  | string s => some s
  | _ => none

def array? : Json → Option (List Json)
  | array xs => some xs
  | _ => none

def integer? : Json → Option Int
  | integer n => some n
  | _ => none

/-- A natural number of 64 bits. -/
def word? : Json → Option Nat
  | integer n => if 0 ≤ n ∧ n < UInt64.size then some n.toNat else none
  | _ => none

/-- A list of strings. -/
def strings? (j : Json) : Option (List String) := j.array?.bind (·.mapM string?)

/-- A record: an object, or the list of the values of its fields in their order. -/
def record? (keys : List String) : Json → Option Json
  | object fields => some (object fields)
  | array xs => if xs.length ≤ keys.length then some (object (keys.zip xs)) else none
  | _ => none

/-- What stands under a key of a record, if it reads. -/
def field? (read : Json → Option α) (key : String) (j : Json) : Option α := (j.get? key).bind read

/-- What stands under a key, or a default if there is no such key. -/
def fieldOr? (read : Json → Option α) (default : α) (key : String) (j : Json) : Option α :=
  match j.get? key with
  | some x => read x
  | none => some default

def ofOption (f : α → Json) : Option α → Json
  | some a => f a
  | none => null

/-- Reads null as none. -/
def option? (read : Json → Option α) : Json → Option (Option α)
  | null => some none
  | j => (read j).map some

/-- A list, if each of its members reads. -/
def list? (read : Json → Option α) (j : Json) : Option (List α) := j.array?.bind (·.mapM read)

def ofStrings (xs : List String) : Json := array (xs.map string)

end Json
end TypeScriptRepl
