import TypeScriptRepl.Toml.Value

/-! TOML documents: headers, and the keys and values below them. -/
namespace TypeScriptRepl.Toml

open Reader

/-- The entries of a document up to a line, and the path of the header above that line. -/
structure Draft where
  entries : List (Key × Item)
  path : List Key
deriving Repr, Inhabited

namespace Draft

def editAt (path : List Key) (f : Table.Edit) (d : Draft) : Except Conflict Draft := do
  match ← Table.descend false f path [] .header none d.entries with
  | .table _ _ entries => return { d with entries }
  | _ => return d

/-- How a key is written in a header. -/
def written (k : Key) : String :=
  let cs := k.name.toList
  let plain := cs.all isPlain
  if !cs.isEmpty && cs.all isBare then k.name
  else if plain && cs.all fun c => c ≠ '"' && c ≠ '\\' then "\"" ++ k.name ++ "\""
  else if plain && !cs.contains '\'' then "'" ++ k.name ++ "'"
  else k.name

/-- Opens the table of a header. A table that was only implied so far moves to the end. -/
def openLast (range : Range) (k : Key) (before : List String) : Table.Edit :=
  fun style whole entries =>
    match lookup? k.name entries with
    | none => .ok (.table style whole (entries ++ [(k, .table .header (some range) [])]))
    | some (.table .implied _ inner) =>
      .ok (.table style whole (remove k.name entries ++ [(k, .table .header (some range) inner)]))
    | some _ => .error (.duplicate (written k) (some before))

def openElement (range : Range) (k : Key) (before : List String) : Table.Edit :=
  fun style whole entries =>
    let fresh := Item.table .header (some range) []
    match lookup? k.name entries with
    | none => .ok (.table style whole (entries ++ [(k, .tables [fresh])]))
    | some (.tables elements) =>
      .ok (.table style whole (replace k.name (.tables (elements ++ [fresh])) entries))
    | some _ => .error (.duplicate (written k) (some before))

/-- Goes on with the table of a header, or with a new element of an array of tables. -/
def openTable (element : Bool) (path : List Key) (range : Range) (d : Draft) :
    Except Conflict Draft :=
  match path.getLast? with
  | none => .ok d
  | some k => do
    let before := Table.names path.dropLast
    let edit := if element then openElement range k before else openLast range k before
    return { ← editAt path.dropLast edit d with path }

/-- Puts a value under a key of the current table, which then reaches to the end of the value. -/
def insert (ks : List Key) (v : Item) (d : Draft) : Except Conflict Draft :=
  let add : Table.Edit := fun style range entries =>
    let range := match range, v.range? with
      | some r, some s => some ⟨r.start, s.stop⟩
      | r, _ => r
    Table.insert ks v (some (Table.names d.path)) style range entries
  editAt d.path add d

end Draft

def checked (r : Except Conflict Draft) : Except String Draft := r.mapError Conflict.message

def trailing : Reader Unit := (commit lineTrailing).expecting ["newline", "`#`"]

def header (d : Draft) : Reader Draft := labelled "table header" do
  let two := (← rest).take 2
  if two.length < 2 then fail
  else
    let element := two = ['[', '[']
    let (opening, closing) := if element then ("[[", "]]") else ("[", "]")
    check (fun (path, range) => checked (d.openTable element path range)) do
      let (path, range) ← located do
        word opening
        let path ← commit key
        (commit (word closing)).expecting ["`.`", "`" ++ closing ++ "`"]
        return path
      trailing
      return (path, range)

def pair (d : Draft) : Reader Draft :=
  check (fun (ks, v) => checked (d.insert ks v)) do
    let ks ← key
    commit do
      equals
      blanks
      let v ← value depthLimit
      trailing
      return (ks, v)

/-- A line that is not empty, and the blanks after it. -/
def statement (d : Draft) : Reader Draft := do
  let d ← match ← ahead any with
    | '#' => commit do
      comment
      orElse newline atEnd
      return d
    | '[' => commit (header d)
    | '\n' | '\r' => do
      newline
      pure d
    | _ => commit (pair d)
  blanks
  return d

def statements : Nat → Draft → Reader Draft
  | 0, d => pure d
  | n + 1, d => do
    match ← attempt (statement d) with
    | some d => statements n d
    | none => return d

def document : Reader (List (Key × Item)) := do
  let _ ← attempt (word "\uFEFF")
  blanks
  let d ← statements ((← rest).length + 1) ⟨[], []⟩
  atEnd
  return d.entries

/-- The entries of a document. -/
def parse (source : String) : Except Fault (List (Key × Item)) :=
  match document ⟨source.toList, .zero⟩ with
  | .done entries _ => .ok entries
  | .miss f | .halt f => .error f

end TypeScriptRepl.Toml
