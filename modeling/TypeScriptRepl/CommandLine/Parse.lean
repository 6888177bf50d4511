import TypeScriptRepl.CommandLine.Error
import TypeScriptRepl.CommandLine.Similarity

/-!
Reading a command line, from left to right. A value is taken in only when the next argument has been
recognized, so that errors about values come later than their place suggests.
-/
namespace TypeScriptRepl.CommandLine

open Text

/-- A word of a command line, as bytes. -/
abbrev Word := List UInt8

/-- An option or a file whose value has not been taken in. An option may still lack its value. -/
inductive Pending where
  | nothing
  | config (value : Option Word)
  | file (value : Word)
deriving Repr, DecidableEq, Inhabited

/-- What has been read. `used` are the arguments in the order in which they were taken in. -/
structure Draft where
  used : List Argument
  file : Option Path
  config : Option Path
  pending : Pending
  onlyFiles : Bool
deriving Repr, DecidableEq, Inhabited

namespace Draft

def empty : Draft := ⟨[], none, none, .nothing, false⟩

private def mark (a : Argument) (d : Draft) : Draft :=
  if d.used.contains a then d else { d with used := d.used ++ [a] }

/-- Takes the value of the option in. -/
private def takeConfig (value : Option Word) (d : Draft) : Draft × Option Error :=
  match value with
  | none => (d, some (.valueRequired .config))
  | some v =>
    if d.used.contains .config then (d, some (.repeated .config))
    else if v.isEmpty then (d.mark .config, some (.valueRequired .config))
    else ({ d.mark .config with config := some ⟨v⟩ }, none)

/-- Takes in what is pending, as far as this is right. -/
private def settle (d : Draft) : Draft × Option Error :=
  let e := { d with pending := .nothing }
  match d.pending with
  | .nothing => (e, none)
  | .config value => takeConfig value e
  | .file v =>
    if v.isEmpty then (e.mark .file, some (.valueRequired .file))
    else ({ e.mark .file with file := some ⟨v⟩ }, none)

private def settled (d : Draft) : Except Error Draft :=
  match d.settle with
  | (d, none) => .ok d
  | (_, some e) => .error e

/-- Turns a switch on. -/
private def turnOn (s : Switch) (d : Draft) : Except Error Draft := do
  let d ← d.settled
  match s with
  | .help => .error .help
  | .version => .error .version
  | s => if d.used.contains (.switch s) then .error (.repeated (.switch s)) else .ok (d.mark (.switch s))

private def equalsSign : UInt8 := 61

private def dash : UInt8 := 45

private def splitValue (word : Word) : Word × Option Word :=
  match word.dropWhile (· ≠ equalsSign) with
  | [] => (word, none)
  | _ :: value => (word.takeWhile (· ≠ equalsSign), some value)

private def shown (bytes : Word) : String := String.ofList (Utf8.decodeLossy bytes)

private def unknownLong (name : String) (d : Draft) : Error :=
  let (d, _) := d.settle
  match (mostSimilar? name longNames).bind Argument.ofLong? with
  | some a => .unknown ("--" ++ name) (.similar a) (d.mark a).used
  | none => .unknown ("--" ++ name) .afterDashes d.used

/-- A word that begins with two dashes, without them. -/
private def long (word : Word) (d : Draft) : Except Error Draft :=
  let (name, value) := splitValue word
  match (Utf8.decode? name).bind fun cs => Argument.ofLong? (String.ofList cs), value with
  | some (.switch s), none => d.turnOn s
  | some (.switch s), some v =>
    .error (.surplusValue (shown v) s (d.used.filter (· ≠ .file) ++ [.switch s]))
  | some .config, none => do return { ← d.settled with pending := .config none }
  | some .config, some v => do
    match takeConfig (some v) (← d.settled) with
    | (d, none) => return d
    | (_, some e) => .error e
  | some .file, _ | none, _ => .error (unknownLong (shown name) d)

/-- The switches that follow a single dash, one by one. -/
private def short : List (Option Char) → String → Draft → Except Error Draft
  | [], _, d => .ok d
  | c :: rest, restText, d =>
    match c.bind fun c => Switch.all.find? (·.short? = some c) with
    | some s => do short rest (restText.drop 1).toString (← d.turnOn s)
    | none =>
      let name := match c with
        | some c => String.singleton c
        | none => restText
      .error (.unknown ("-" ++ name) .afterDashes [])

private def fileWord (word : Word) (d : Draft) : Except Error Draft :=
  if d.file.isSome ∨ d.pending matches .file _ then .error (.unknown (shown word) .none [])
  else do return { ← d.settled with pending := .file word }

/-- Reads the next word. -/
def step (d : Draft) (word : Word) : Except Error Draft :=
  if d.onlyFiles then d.fileWord word
  else
    match word with
    | [a, b] => if a = dash ∧ b = dash then .ok { d with onlyFiles := true } else other word
    | word => other word
where
  other (word : Word) : Except Error Draft :=
    match word with
    | a :: b :: rest =>
      if a = dash ∧ b = dash then d.long rest
      else if a = dash then d.short (Utf8.pieces (b :: rest)) (shown (b :: rest)) else value word
    | word => value word
  value (word : Word) : Except Error Draft :=
    if d.pending = .config none then .ok { d with pending := .config (some word) }
    else d.fileWord word

/-- The command line after its last word. -/
def finish (d : Draft) : Except Error CommandLine := do
  let d ← d.settled
  match d.file with
  | none => .error (.missingFile d.used)
  | some file =>
    return ⟨file, d.used.filterMap fun
      | .switch s => some s
      | _ => none, d.config⟩

end Draft

/-- Reads the words after the name of the program. -/
def parse (words : List Word) : Except Error CommandLine := do
  (← words.foldlM Draft.step .empty).finish

/-- What the program is called: the name of the file that was started. -/
def nameOf (program : Option Word) : String :=
  ((program.bind fun p => (Path.mk p).fileName?).bind fun n =>
    (Utf8.decode? n).map String.ofList).getD programName

end TypeScriptRepl.CommandLine
