import TypeScriptRepl.Toml.Datetime
import TypeScriptRepl.Toml.Number
import TypeScriptRepl.Toml.Table
import TypeScriptRepl.Toml.Text

/-! Keys and values of TOML. -/
namespace TypeScriptRepl.Toml

open Reader

/-- Values nest to less than this depth, and dotted keys have less than this number of parts. -/
def depthLimit : Nat := 80

def isBare (c : Char) : Bool :=
  isDigit c || ('a' ≤ c && c ≤ 'z') || ('A' ≤ c && c ≤ 'Z') || c = '-' || c = '_'

def simpleKey : Reader Key := do
  blanks
  let (name, range) ← located do
    match (← rest).head? with
    | some '"' | some '\'' => quoted
    | _ => return String.ofList (← takeWhile₁ isBare)
  blanks
  return ⟨name, range⟩

def recursionLimit : String := "recursion limit exceeded"

/-- A key with the keys that it is nested in before it. -/
def key : Reader (List Key) :=
  (labelled "key" (separated₁ simpleKey (word "."))).check fun ks =>
    if depthLimit ≤ ks.length then .error recursionLimit else .ok ks

def equals : Reader Unit := (word "=").expecting ["`.`", "`=`"]

def expectingString (r : Reader α) : Reader α :=
  (r.labelled "string").expecting ["`\"`", "`'`"]

def array (value : Reader Item) : Reader (List Item) := do
  word "["
  let items ← commit do
    match (← rest).head? with
    | some ']' => return []
    | _ =>
      let items ← separated (do gap; let v ← value; gap; return v) (word ",")
      if !items.isEmpty then let _ ← attempt (word ",")
      gap
      return items
  ((commit (word "]")).labelled "array").expecting ["`]`"]
  return items

def inlinePair (value : Reader Item) : Reader (List Key × Item) := do
  let ks ← key
  commit do
    equals
    blanks
    let v ← value
    blanks
    return (ks, v)

def inlineTable (value : Reader Item) : Reader (List (Key × Item)) := do
  word "\x7b"
  let pairs := do
    let pairs ← separated (inlinePair value) (word ",")
    blanks
    return pairs
  let entries ← commit (pairs.check fun ps => (Table.ofPairs ps).mapError Conflict.message)
  ((commit (word "\x7d")).labelled "inline table").expecting ["`\x7d`"]
  return entries

def at_ (r : Reader α) (f : α → Range → Item) : Reader Item := do
  let (a, range) ← located r
  return f a range

def tooDeep : Reader Item := commit (check (fun _ => .error recursionLimit) (ahead any))

/-- A value, in which arrays and tables nest to less than a depth. -/
def value : Nat → Reader Item
  | 0 => tooDeep
  | depth + 1 => do
    match ← ahead any with
    | '"' | '\'' => at_ text .string
    | '[' => if depth = 0 then tooDeep else at_ (array (value depth)) .array
    | '\x7b' =>
      if depth = 0 then tooDeep
      else at_ (inlineTable (value depth)) fun es r => .table .inline (some r) es
    | 't' => at_ (expectingString (commit (word "true"))) fun _ r => .boolean true r
    | 'f' => at_ (expectingString (commit (word "false"))) fun _ r => .boolean false r
    | 'i' => at_ (expectingString infinity) .float
    | 'n' => at_ (expectingString notANumber) .float
    | '_' => at_ (integer.expecting ["leading digit"]) .integer
    | '.' => at_ (float.expecting ["leading digit"]) .float
    | c =>
      if isDigit c || c = '+' || c = '-' then
        orElse (at_ datetime fun _ r => .datetime r)
          (orElse (at_ float .float) (at_ integer .integer))
      else expectingString fail

end TypeScriptRepl.Toml
