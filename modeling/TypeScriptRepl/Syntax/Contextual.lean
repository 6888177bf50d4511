import TypeScriptRepl.Syntax.Lexeme

/-!
Tokens that depend on what stands around them: semicolons that a line end stands for, the text of a
template, the mark of a conditional expression, and HTML-like comments.
-/
namespace TypeScriptRepl.Syntax

open Grammar Text

/-- The tokens, in the order of their bits in a mask. The last six only tell which state the parser
is in. -/
inductive Contextual where
  | semicolon
  | templateText
  | ternaryMark
  | htmlComment
  | logicalOr
  | escapeSequence
  | regexPattern
  | jsxText
  | signatureSemicolon
  | errorRecovery
deriving Repr, DecidableEq

namespace Contextual

/-- Whether a mask contains the token. -/
def isIn (t : Contextual) (mask : Nat) : Bool := mask.testBit t.ctorIdx

/-- The terminal that the token is. -/
def symbol : Contextual → Symbol
  | .semicolon => 158
  | .templateText => 159
  | .ternaryMark => 160
  | .htmlComment => 161
  | .logicalOr => 71
  | .escapeSequence => 102
  | .regexPattern => 107
  | .jsxText => 162
  | .signatureSemicolon => 163
  | .errorRecovery => 164

end Contextual

private def isBlank (c : Char) : Bool := c = ' ' || ('\t' ≤ c && c ≤ '\r')

private def isLetter (c : Char) : Bool := ('a' ≤ c && c ≤ 'z') || ('A' ≤ c && c ≤ 'Z')

/-- A character that a line comment goes on over. NUL ends it as the end of the text does. -/
private def inLineComment (c : Char) : Bool :=
  c ≠ '\x00' && c ≠ '\n' && c ≠ '\u2028' && c ≠ '\u2029'

/-- The end of the rest of a block comment, and whether it is closed. -/
private def blockCommentEnd : List Char → Extent → Cursor × Bool
  | '*' :: '/' :: rest, p => (⟨rest, (p.push '*').push '/'⟩, true)
  | c :: rest, p =>
    if c = '\x00' then (⟨c :: rest, p⟩, false) else blockCommentEnd rest (p.push c)
  | [], p => (⟨[], p⟩, false)

/-- Past blanks and comments: where that ends, whether a comment was passed, and whether it ends at
the character after a slash that opens no comment. -/
private def skipComments : Nat → Cursor → Bool → Cursor × Bool × Bool
  | 0, c, seen => (c, seen, false)
  | fuel + 1, c, seen =>
    let c := c.skipWhile isBlank
    if c.peek ≠ '/' then (c, seen, false)
    else
      let c := c.next
      if c.peek = '/' then skipComments fuel (c.next.skipWhile inLineComment) true
      else if c.peek = '*' then
        let (c, closed) := blockCommentEnd c.next.rest c.next.position
        skipComments fuel c (seen || closed)
      else (c, seen, true)

/-- Whether a semicolon is understood at a place, where that was decided, and whether a comment was
passed on the way. -/
private structure Verdict where
  understood : Bool
  decidedAt : Cursor
  sawComment : Bool := false

/-- Looks at the rest of the line. `Sum.inr` is the place after the line feed, if that is reached. -/
private def lineEnd (mask : Nat) : List Char → Extent → Verdict ⊕ Cursor
  | [], p => .inl ⟨true, ⟨[], p⟩, false⟩
  | c :: rest, p =>
    let here : Cursor := ⟨c :: rest, p⟩
    if c = '\x00' then .inl ⟨true, here, false⟩
    else if c = '}' then
      let after := here.next.skipWhile isBlank
      .inl ⟨after.peek ≠ ':' || Contextual.logicalOr.isIn mask, after, false⟩
    else if p.bytes = 0 then .inl ⟨true, here, false⟩
    else if c = '\n' then .inr here.next
    else if isBlank c then lineEnd mask rest (p.push c)
    else .inl ⟨false, here, false⟩

/-- Whether the text after `instanceof`, of which `in` has been read, keeps the statement open. -/
private def instanceofRest : List Char → Cursor → Bool × Cursor
  | [], c => (isLetter c.peek, c)
  | w :: word, c => if c.peek = w then instanceofRest word c.next else (true, c)

/-- Whether the first character of the next line starts a new statement. -/
private def startsStatement (mask : Nat) (c : Cursor) : Bool × Cursor :=
  match c.peek with
  | '\x60' | ',' | '.' | ';' | '*' | '%' | '>' | '<' | '=' | '?' | '^' | '|' | '&' | '/' | ':' =>
    (false, c)
  | '{' => (!Contextual.signatureSemicolon.isIn mask, c)
  | '(' | '[' => (!Contextual.logicalOr.isIn mask, c)
  | '+' => (c.next.peek = '+', c.next)
  | '-' => (c.next.peek = '-', c.next)
  | '!' => (c.next.peek ≠ '=', c.next)
  | 'i' =>
    let c := c.next
    if c.peek ≠ 'n' then (true, c)
    else
      let c := c.next
      if isLetter c.peek then instanceofRest "stanceof".toList c else (false, c)
  | _ => (true, c)

private def semicolon (mask : Nat) (c : Cursor) : Verdict :=
  match lineEnd mask c.rest c.position with
  | .inl v => v
  | .inr after =>
    let (c, sawComment, slash) := skipComments (after.rest.length + 1) after false
    if slash then ⟨false, c, sawComment⟩
    else
      let (yes, c) := startsStatement mask c
      ⟨yes, c, sawComment⟩

/-- The `?` of a conditional expression, as against that of a parameter without a value. -/
private def ternaryMark (c : Cursor) : Option Lexeme :=
  let c := c.skipWhile isBlank
  let after := c.next
  if c.peek ≠ '?' || after.peek = '?' || after.peek = '.' then none
  else
    let beyond := after.skipWhile isBlank
    let isMark :=
      match beyond.peek with
      | ':' | ')' | ',' => false
      | '.' => beyond.next.peek.isDigit
      | _ => true
    if isMark then some ⟨Contextual.ternaryMark.symbol, c.position, after.position⟩ else none

/-- The end of a stretch of template text, if it is not empty. -/
private def templateEnd : List Char → Extent → Bool → Option Extent
  | [], _, _ => none
  | '$' :: '{' :: _, p, nonempty => if nonempty then some p else none
  | c :: rest, p, nonempty =>
    if c = '\x00' then none
    else if c = '\x60' || c = '\\' then if nonempty then some p else none
    else templateEnd rest (p.push c) true

private def templateText (c : Cursor) : Option Lexeme :=
  (templateEnd c.rest c.position false).map (⟨Contextual.templateText.symbol, c.position, ·⟩)

/-- A line that opens or closes an HTML comment. -/
private def htmlComment (c : Cursor) : Option Lexeme :=
  let c := c.skipWhile fun x => isBlank x || x = '\u2028' || x = '\u2029'
  let opened := (c.skipWord? "<!--".toList).orElse fun _ => c.skipWord? "-->".toList
  opened.map fun after =>
    ⟨Contextual.htmlComment.symbol, c.position, (after.skipWhile inLineComment).position⟩

/-- The lexeme at `c` among the tokens of `mask`. A semicolon that is understood covers no text. -/
def contextual (mask : Nat) (c : Cursor) : Option Lexeme :=
  let expected (t : Contextual) : Bool := t.isIn mask
  if expected .templateText then
    if expected .semicolon then none else templateText c
  else if expected .jsxText then none
  else if expected .semicolon || expected .signatureSemicolon then
    let v := semicolon mask c
    if v.understood then some ⟨Contextual.semicolon.symbol, c.position, c.position⟩
    else if !v.sawComment && expected .ternaryMark && v.decidedAt.peek = '?' then
      ternaryMark v.decidedAt
    else none
  else if expected .ternaryMark then ternaryMark c
  else if expected .htmlComment && !expected .logicalOr && !expected .escapeSequence &&
      !expected .regexPattern then htmlComment c
  else none

end TypeScriptRepl.Syntax
