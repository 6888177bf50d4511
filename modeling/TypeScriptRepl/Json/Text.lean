import TypeScriptRepl.Json.Basic
import TypeScriptRepl.Json.Quoted

/-! Writing and reading JSON values as text. -/
namespace TypeScriptRepl.Json

/-- The literal of a string. -/
def quote (s : String) : List Char := Quoted.encode s.toList

mutual
/-- The text of a value, without blanks. -/
def render : Json → List Char
  | null => "null".toList
  | bool b => (if b then "true" else "false").toList
  | integer n => (toString n).toList
  | decimal text => text.toList
  | string s => quote s
  | array xs => '[' :: renderAll xs true ++ [']']
  | object fields => '{' :: renderFields fields true ++ ['}']

def renderAll : List Json → Bool → List Char
  | [], _ => []
  | x :: xs, first => (if first then [] else [',']) ++ render x ++ renderAll xs false

def renderFields : List (String × Json) → Bool → List Char
  | [], _ => []
  | (key, x) :: fields, first =>
    (if first then [] else [',']) ++ quote key ++ ':' :: render x ++ renderFields fields false
end

/-- The text of a value as a string. -/
def toText (j : Json) : String := String.ofList j.render

def isBlank (c : Char) : Bool := c = ' ' || c = '\t' || c = '\n' || c = '\r'

def skipBlanks (cs : List Char) : List Char := cs.dropWhile isBlank

def keyword? (word cs : List Char) : Option (List Char) :=
  if word.isPrefixOf cs then some (cs.drop word.length) else none

def digits (cs : List Char) : List Char × List Char := cs.span Char.isDigit

def natOf (ds : List Char) : Nat := ds.foldl (fun n d => n * 10 + (d.toNat - 48)) 0

/-- The digits after a point, with the point; none if no digit follows it. -/
def fraction? (cs : List Char) : Option (List Char × List Char) :=
  match cs with
  | '.' :: rest =>
    match digits rest with
    | ([], _) => none
    | (ds, rest) => some ('.' :: ds, rest)
  | _ => some ([], cs)

def exponent? (cs : List Char) : Option (List Char × List Char) :=
  match cs with
  | e :: rest =>
    if e = 'e' ∨ e = 'E' then
      let (sign, rest) := match rest with
        | '+' :: r => (['+'], r)
        | '-' :: r => (['-'], r)
        | r => ([], r)
      match digits rest with
      | ([], _) => none
      | (ds, rest) => some (e :: sign ++ ds, rest)
    else some ([], cs)
  | [] => some ([], [])

def number? (cs : List Char) : Option (Json × List Char) := do
  let (negative, cs) := match cs with
    | '-' :: rest => (true, rest)
    | _ => (false, cs)
  let (ds, rest) := digits cs
  if ds.isEmpty ∨ (ds.head? = some '0' ∧ 1 < ds.length) then none
  else
    let (frac, rest) ← fraction? rest
    let (exp, rest) ← exponent? rest
    let n := natOf ds
    if frac.isEmpty && exp.isEmpty && !(negative && n = 0) then
      return (integer (if negative then -n else n), rest)
    else return (decimal (String.ofList ((if negative then ['-'] else []) ++ ds ++ frac ++ exp)), rest)

mutual
/-- The value that a text begins with, and the text after it. -/
def value? : Nat → List Char → Option (Json × List Char)
  | 0, _ => none
  | fuel + 1, cs =>
    match skipBlanks cs with
    | '[' :: rest =>
      match skipBlanks rest with
      | ']' :: rest => some (array [], rest)
      | rest => elements? fuel rest []
    | '{' :: rest =>
      match skipBlanks rest with
      | '}' :: rest => some (object [], rest)
      | rest => members? fuel rest []
    | '"' :: rest =>
      (Quoted.decode ('"' :: rest)).map fun (s, rest) => (string (String.ofList s), rest)
    | 'n' :: rest => (keyword? "ull".toList rest).map (null, ·)
    | 't' :: rest => (keyword? "rue".toList rest).map (bool true, ·)
    | 'f' :: rest => (keyword? "alse".toList rest).map (bool false, ·)
    | cs => number? cs

/-- The rest of a list whose values so far are `found`, the last one first. -/
def elements? : Nat → List Char → List Json → Option (Json × List Char)
  | 0, _, _ => none
  | fuel + 1, cs, found =>
    match value? fuel cs with
    | none => none
    | some (x, rest) =>
      match skipBlanks rest with
      | ',' :: rest => elements? fuel rest (x :: found)
      | ']' :: rest => some (array (x :: found).reverse, rest)
      | _ => none

/-- The rest of an object whose fields so far are `found`, the last one first. -/
def members? : Nat → List Char → List (String × Json) → Option (Json × List Char)
  | 0, _, _ => none
  | fuel + 1, cs, found =>
    match Quoted.decode (skipBlanks cs) with
    | none => none
    | some (key, rest) =>
      match skipBlanks rest with
      | ':' :: rest =>
        match value? fuel rest with
        | none => none
        | some (x, rest) =>
          let found := (String.ofList key, x) :: found
          match skipBlanks rest with
          | ',' :: rest => members? fuel rest found
          | '}' :: rest => some (object found.reverse, rest)
          | _ => none
      | _ => none
end

/-- The value that a text is, with blanks around it. -/
def parse? (cs : List Char) : Option Json :=
  match value? (cs.length + 1) cs with
  | some (j, rest) => if (skipBlanks rest).isEmpty then some j else none
  | none => none

end TypeScriptRepl.Json
