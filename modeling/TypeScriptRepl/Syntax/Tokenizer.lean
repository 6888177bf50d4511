import TypeScriptRepl.Grammar.Keyword
import TypeScriptRepl.Syntax.Contextual
import TypeScriptRepl.Syntax.Subtree

/-! Tokens as the parser sees them: one lexeme, or a stretch of text in which none can be found. -/
namespace TypeScriptRepl.Syntax

open Grammar Text

private def spelled : List (List Char × Symbol) := keywords.map fun (w, x) => (w.toList, x)

/-- The longest keyword that a text begins with, by its length. -/
def keywordAt (text : List Char) : Option (Nat × Symbol) :=
  spelled.foldl
    (fun best (w, x) =>
      if w.isPrefixOf text && (best.map (·.1)).getD 0 < w.length then some (w.length, x) else best)
    none

/-- A byte order mark at the beginning of the text is skipped. -/
private def skipMark (c : Cursor) : Cursor :=
  if c.position.bytes = 0 ∧ c.rest.head? = some '\uFEFF' then c.next else c

private def lex (mode : LexMode) (c : Cursor) : Scan := Scan.lex mode.entry (skipMark c)

/-- A contextual token that covers no text is taken only where the parser makes progress with it:
`progress` says whether it has moved since the last error. -/
private def contextualAt (s : State) (progress : Bool) (c : Cursor) : Option Lexeme :=
  (contextual (lexMode s).contextual (skipMark c)).filter fun l =>
    c.position.bytes < l.stop.bytes || (progress && goto s l.token ≠ s)

private def tokenOf (origin : Extent) (s : State) (l : Lexeme) : Subtree :=
  .token l.token (l.start - origin) (l.stop - l.start) s false

/-- An identifier is read as a keyword where the state has a use for that. -/
private def wordOf (text : Indexed) (origin : Extent) (s : State) (l : Lexeme) : Subtree :=
  if l.token ≠ Symbol.identifier then tokenOf origin s l
  else
    match keywordAt (text.cursorAt l.start).rest with
    | none => tokenOf origin s l
    | some (length, x) =>
      let whole := length = l.stop.chars - l.start.chars
      .token (if whole && hasActions s x then x else l.token) (l.start - origin) (l.stop - l.start) s
        true

/-- Skips text until any token at all is found. `skipped` is the stretch skipped so far. -/
private def recoverToken (text : Indexed) (origin : Extent) (s : State) :
    Nat → Cursor → Option (Extent × Extent) → Subtree
  | 0, _, _ => .token Symbol.error .zero .zero s false
  | fuel + 1, c, skipped =>
    let r := lex (lexMode State.error) c
    let unknown (start stop : Extent) := Subtree.token Symbol.error (start - origin) (stop - start) s false
    match r.lexeme, skipped with
    | some l, none => wordOf text origin s l
    | some _, some (start, stop) => unknown start stop
    | none, _ =>
      let (start, stop) := skipped.getD (r.start, r.start)
      if r.reached.position.bytes ≠ stop.bytes then
        recoverToken text origin s fuel r.reached (some (start, r.reached.position))
      else if r.reached.atEnd then unknown start stop
      else recoverToken text origin s fuel r.reached.next (some (start, r.reached.next.position))

/-- The token that state `s` reads at a position. -/
def readToken (text : Indexed) (s : State) (progress : Bool) (position : Extent) : Subtree :=
  let c := text.cursorAt position
  match contextualAt s progress c with
  | some l => tokenOf position s l
  | none =>
    match (lex (lexMode s) c).lexeme with
    | some l => wordOf text position s l
    | none => recoverToken text position s (2 * c.rest.length + 2) c none

end TypeScriptRepl.Syntax
