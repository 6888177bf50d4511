import TypeScriptRepl.Text.Extent

/-! Places in a text: what is still to be read, and the extent of what has been read. -/
namespace TypeScriptRepl.Text

structure Cursor where
  rest : List Char
  position : Extent
deriving Repr, DecidableEq, Inhabited

namespace Cursor

/-- The next character. The end of the text shows as NUL, and so does a NUL in the text. -/
def peek (c : Cursor) : Char := c.rest.headD '\x00'

def atEnd (c : Cursor) : Bool := c.rest.isEmpty

/-- One character further; the end stays where it is. -/
def next : Cursor → Cursor
  | ⟨[], p⟩ => ⟨[], p⟩
  | ⟨c :: rest, p⟩ => ⟨rest, p.push c⟩

private def skipFrom (skip : Char → Bool) : List Char → Extent → Cursor
  | [], p => ⟨[], p⟩
  | c :: rest, p => if skip c then skipFrom skip rest (p.push c) else ⟨c :: rest, p⟩

/-- Past all leading characters that satisfy `skip`. -/
def skipWhile (skip : Char → Bool) (c : Cursor) : Cursor := skipFrom skip c.rest c.position

/-- Past `word`, if the text goes on with it. -/
def skipWord? : List Char → Cursor → Option Cursor
  | [], c => some c
  | w :: word, c => if c.rest.head? = some w then skipWord? word c.next else none

end Cursor

/-- A text with each of its suffixes at hand. -/
structure Indexed where
  suffixes : Array (List Char)

namespace Indexed

private def collect : List Char → Array (List Char) → Array (List Char)
  | [], found => found.push []
  | c :: rest, found => collect rest (found.push (c :: rest))

def ofList (cs : List Char) : Indexed := ⟨collect cs #[]⟩

/-- How many characters the text has. -/
def length (t : Indexed) : Nat := t.suffixes.size - 1

/-- The cursor at a position of the text. -/
def cursorAt (t : Indexed) (p : Extent) : Cursor := ⟨t.suffixes[p.chars]?.getD [], p⟩

end Indexed
end TypeScriptRepl.Text
