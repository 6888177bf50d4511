import TypeScriptRepl.Shell.Script

/-! Reading scripts. Each character stands for a byte. Fuel bounds the length of the text. -/
namespace TypeScriptRepl.Shell

private def isSpace (c : Char) : Bool := c = ' ' || c = '\t'

private def endsWord (c : Char) : Bool :=
  isSpace c || c = '\n' || c = ';' || c = '&' || c = '|' || c = '<' || c = '>' || c = '(' || c = ')'

private def startsName (c : Char) : Bool := c.isAlpha || c = '_'

private def inName (c : Char) : Bool := c.isAlphanum || c = '_'

private def isSpecial (c : Char) : Bool :=
  c.isDigit || c = '@' || c = '*' || c = '#' || c = '?' || c = '$' || c = '!' || c = '-'

private def toBytes (cs : List Char) : Bytes := cs.map fun c => UInt8.ofNat c.toNat

/-- A name of a parameter. -/
private def name? (cs : List Char) : Option (String × List Char) :=
  match cs with
  | c :: rest =>
    if startsName c then some (String.ofList (cs.takeWhile inName), cs.dropWhile inName)
    else if isSpecial c then some (String.singleton c, rest)
    else none
  | [] => none

/-- The sign before a fallback: whether it also holds for an empty value. -/
private def fallbackMark? (cs : List Char) : Option (Bool × List Char) :=
  match cs with
  | ':' :: '-' :: after => some (true, after)
  | '-' :: after => some (false, after)
  | _ => none

mutual
/-- The pieces up to the end of a word, of a quotation or of a fallback. `stop` says where it ends. -/
private def pieces (stop : Char → Bool) (quoted : Bool) :
    Nat → List Char → List Piece → Option (List Piece × List Char)
  | 0, _, _ => none
  | n + 1, cs, found =>
    match cs with
    | [] => some (found.reverse, [])
    | c :: rest =>
      if stop c then some (found.reverse, cs)
      else if c = '\\' then
        match rest with
        | '\n' :: rest => pieces stop quoted n rest found
        | d :: rest =>
          let kept := quoted && !(d = '$' || d = '`' || d = '"' || d = '\\')
          pieces stop quoted n rest (.text (toBytes (if kept then [c, d] else [d])) true :: found)
        | [] => some ((.text (toBytes [c]) true :: found).reverse, [])
      else if c = '\'' && !quoted then
        match rest.dropWhile (· ≠ '\'') with
        | _ :: after =>
          pieces stop quoted n after (.text (toBytes (rest.takeWhile (· ≠ '\''))) true :: found)
        | [] => none
      else if c = '"' && !quoted then
        match pieces (· = '"') true n rest [] with
        | some (inner, _ :: after) =>
          pieces stop quoted n after ((Piece.text [] true :: inner).reverse ++ found)
        | _ => none
      else if c = '$' then
        match parameter quoted n rest with
        | some (p, after) => pieces stop quoted n after (p :: found)
        | none => pieces stop quoted n rest (.text (toBytes [c]) quoted :: found)
      else pieces stop quoted n rest (.text (toBytes [c]) quoted :: found)

/-- What follows a dollar sign. -/
private def parameter (quoted : Bool) : Nat → List Char → Option (Piece × List Char)
  | 0, _ => none
  | n + 1, cs =>
    match cs with
    | '\x7b' :: rest =>
      match name? rest with
      | some (name, '\x7d' :: after) => some (.parameter name quoted, after)
      | some (name, after) =>
        match fallbackMark? after with
        | none => none
        | some (ifEmpty, after) =>
          match pieces (· = '\x7d') quoted n after [] with
          | some (word, _ :: after) => some (.fallback name ifEmpty word quoted, after)
          | _ => none
      | none => none
    | cs => (name? cs).map fun (name, after) => (.parameter name quoted, after)
end

private def skipSpaces : Nat → List Char → List Char
  | 0, cs => cs
  | n + 1, cs =>
    match cs with
    | '\\' :: '\n' :: rest => skipSpaces n rest
    | '#' :: rest => rest.dropWhile (· ≠ '\n')
    | c :: rest => if isSpace c then skipSpaces n rest else cs
    | [] => []

private def skipLines : Nat → List Char → List Char
  | 0, cs => cs
  | n + 1, cs =>
    match skipSpaces cs.length cs with
    | '\n' :: rest => skipLines n rest
    | rest => rest

/-- A word, if there is one. -/
private def word? (cs : List Char) : Option (Word × List Char) :=
  match pieces endsWord false (cs.length + 1) cs [] with
  | some ([], _) => none
  | r => r

/-- A keyword at the beginning. -/
private def keyword? (cs : List Char) : Option (String × List Char) :=
  let w := cs.takeWhile (!endsWord ·)
  let s := String.ofList w
  if ["if", "then", "elif", "else", "fi", "for", "in", "do", "done", "while", "!", "\x7b", "\x7d"].contains s
  then some (s, cs.drop w.length) else none

private def expect? (w : String) (cs : List Char) : Option (List Char) :=
  match keyword? (skipLines cs.length cs) with
  | some (k, rest) => if k = w then some rest else none
  | none => none

private def descriptor? (cs : List Char) : Option (Nat × List Char) :=
  match cs with
  | '1' :: '>' :: rest => some (1, '>' :: rest)
  | '2' :: '>' :: rest => some (2, '>' :: rest)
  | '>' :: rest => some (1, '>' :: rest)
  | _ => none

private def redirection? (cs : List Char) : Option (Redirection × List Char) :=
  let target (rest : List Char) := word? (skipSpaces rest.length rest)
  match cs with
  | '<' :: rest => (target rest).map fun (w, after) => (.input w, after)
  | cs => do
    match ← descriptor? cs with
    | (d, '>' :: '&' :: c :: rest) => if c.isDigit then some (.same d (c.toNat - 48), rest) else none
    | (d, '>' :: '>' :: rest) => (target rest).map fun (w, after) => (.file d true w, after)
    | (d, _ :: rest) => (target rest).map fun (w, after) => (.file d false w, after)
    | _ => none

/-- An assignment at the beginning: its name, and the text of its word. -/
private def assignment? (cs : List Char) : Option (String × List Char) :=
  let name := cs.takeWhile inName
  match name, cs.drop name.length with
  | c :: _, '=' :: rest => if startsName c then some (String.ofList name, rest) else none
  | _, _ => none

private def simple (line : Nat) : Nat → List Char → List (String × Word) → List Word →
    List Redirection → Option (Command × List Char)
  | 0, _, _, _, _ => none
  | n + 1, cs, assignments, words, redirections =>
    let cs := skipSpaces cs.length cs
    match redirection? cs with
    | some (r, rest) => simple line n rest assignments words (r :: redirections)
    | none =>
      match if words.isEmpty then assignment? cs else none with
      | some (name, rest) =>
        let (w, rest) := (word? rest).getD ([], rest)
        simple line n rest ((name, w) :: assignments) words redirections
      | none =>
        match word? cs with
        | some (w, rest) => simple line n rest assignments (w :: words) redirections
        | none =>
          some (.simple line assignments.reverse words.reverse redirections.reverse, cs)

private def wordList : Nat → List Char → List Word → List Word × List Char
  | 0, cs, found => (found.reverse, cs)
  | n + 1, cs, found =>
    let cs := skipSpaces cs.length cs
    match word? cs with
    | some (w, rest) => wordList n rest (w :: found)
    | none => (found.reverse, cs)

private def skipEnd (cs : List Char) : List Char :=
  match skipSpaces cs.length cs with
  | ';' :: rest => rest
  | rest => rest

private def lineOf (total : Nat) (cs : List Char) : Nat := total + 1 - cs.count '\n'

mutual
/-- Commands up to the end or to a keyword that ends them. -/
private def commands (total : Nat) : Nat → List Char → Option (Command × List Char)
  | 0, _ => none
  | n + 1, cs =>
    let cs := skipLines cs.length cs
    let ending := match keyword? cs with
      | some (k, _) => ["then", "elif", "else", "fi", "do", "done", "\x7d"].contains k
      | none => cs.isEmpty
    if ending then some (.skip, cs)
    else
      match chain total n cs with
      | none => none
      | some (c, rest) =>
        match skipSpaces rest.length rest with
        | ';' :: rest | '\n' :: rest => (commands total n rest).map fun (d, rest) => (.sequence c d, rest)
        | rest => some (c, rest)

/-- Commands that depend on each other. -/
private def chain (total : Nat) : Nat → List Char → Option (Command × List Char)
  | 0, _ => none
  | n + 1, cs =>
    match one total n cs with
    | none => none
    | some (c, rest) => links total n c rest

private def links (total : Nat) : Nat → Command → List Char → Option (Command × List Char)
  | 0, _, _ => none
  | n + 1, c, cs =>
    match skipSpaces cs.length cs with
    | '&' :: '&' :: rest =>
      match one total n (skipLines rest.length rest) with
      | some (d, rest) => links total n (.andThen c d) rest
      | none => none
    | '|' :: '|' :: rest =>
      match one total n (skipLines rest.length rest) with
      | some (d, rest) => links total n (.orElse c d) rest
      | none => none
    | rest => some (c, rest)

private def one (total : Nat) : Nat → List Char → Option (Command × List Char)
  | 0, _ => none
  | n + 1, cs =>
    let cs := skipSpaces cs.length cs
    match keyword? cs with
    | some ("!", rest) => (one total n rest).map fun (c, rest) => (.negation c, rest)
    | some ("\x7b", rest) =>
      match commands total n rest with
      | some (c, rest) => (expect? "\x7d" rest).map (c, ·)
      | none => none
    | some ("if", rest) => branches total n rest
    | some ("while", rest) =>
      match commands total n rest with
      | none => none
      | some (condition, rest) =>
        match (expect? "do" rest).bind (commands total n) with
        | some (body, rest) => (expect? "done" rest).map (.while_ condition body, ·)
        | none => none
    | some ("for", rest) =>
      match name? (skipSpaces rest.length rest) with
      | none => none
      | some (name, rest) =>
        let (words, rest) := match keyword? (skipLines rest.length rest) with
          | some ("in", rest) =>
            let (ws, rest) := wordList rest.length rest []
            (some ws, rest)
          | _ => (none, rest)
        match (expect? "do" (skipEnd rest)).bind (commands total n) with
        | some (body, rest) => (expect? "done" rest).map (.each name words body, ·)
        | none => none
    | _ => simple (lineOf total cs) (cs.length + 1) cs [] [] []

/-- What follows `if` or `elif`. -/
private def branches (total : Nat) : Nat → List Char → Option (Command × List Char)
  | 0, _ => none
  | n + 1, cs =>
    match commands total n cs with
    | none => none
    | some (condition, rest) =>
      match (expect? "then" rest).bind (commands total n) with
      | none => none
      | some (yes, rest) =>
        match keyword? (skipLines rest.length rest) with
        | some ("fi", rest) => some (.choice condition yes .skip, rest)
        | some ("elif", rest) =>
          (branches total n rest).map fun (no, rest) => (.choice condition yes no, rest)
        | some ("else", rest) =>
          match commands total n rest with
          | some (no, rest) => (expect? "fi" rest).map (.choice condition yes no, ·)
          | none => none
        | _ => none
end

/-- The commands of a script. -/
def parse? (script : Bytes) : Option Command :=
  let cs := script.map fun b => Char.ofNat b.toNat
  match commands (cs.count '\n') (8 * cs.length + 8) cs with
  | some (c, rest) => if rest.isEmpty then some c else none
  | none => none

end TypeScriptRepl.Shell
