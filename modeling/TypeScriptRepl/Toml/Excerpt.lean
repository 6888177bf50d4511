import TypeScriptRepl.Text.Slice
import TypeScriptRepl.Toml.Fault

/-! Messages about documents, with the line that they are about. -/
namespace TypeScriptRepl.Toml

open Text

/-- The number of line feeds before a byte, and the offset of the line of this byte. -/
private def lineAt : List Char → Nat → Nat → Nat → Nat → Nat × Nat
  | [], _, _, line, start => (line, start)
  | c :: rest, index, here, line, start =>
    if index ≤ here then (line, start)
    else
      let next := here + c.utf8Size
      if c = '\n' then lineAt rest index next (line + 1) next
      else lineAt rest index next line start

/-- The line and the column of a byte, both counted from 0. A column counts characters, but bytes
where the byte is not the last one of a character; the end of the text is one column further than its
last byte. -/
def position (source : List Char) (index : Nat) : Nat × Nat :=
  let size := byteLength source
  if size = 0 then (0, index)
  else
    let inner := min index (size - 1)
    let (line, start) := lineAt source inner 0 0 0
    let column := match slice? source start (inner + 1) with
      | some cs => cs.length - 1
      | none => inner - start
    (line, column + (index - inner))

private def splitAtFeeds : List Char → List Char → List (List Char)
  | [], line => [line.reverse]
  | c :: rest, line =>
    if c = '\n' then line.reverse :: splitAtFeeds rest [] else splitAtFeeds rest (c :: line)

/-- A message below the line in which a range starts. Carets stand below the part of the range that is
on this line. -/
def excerpt (source : List Char) (range : Range) (message : String) : String :=
  let (line, column) := position source range.start
  let content := (splitAtFeeds source [])[line]?.getD []
  let number := toString (line + 1)
  let carets := max 1 (min (range.stop - range.start) (byteLength content - column))
  let blanks (n : Nat) : String := String.ofList (List.replicate n ' ')
  "TOML parse error at line " ++ number ++ ", column " ++ toString (column + 1) ++ "\n" ++
    blanks (number.length + 1) ++ "|\n" ++
    number ++ " | " ++ String.ofList content ++ "\n" ++
    blanks (number.length + 1) ++ "|" ++ blanks (column + 1) ++
    String.ofList (List.replicate carets '^') ++ "\n" ++ message ++ "\n"

/-- Where a fault shows: at one character, or at the end of the text. -/
def Fault.range (source : List Char) (f : Fault) : Range :=
  match (dropBytes? source f.offset).bind (·.head?) with
  | some c => ⟨f.offset, f.offset + c.utf8Size⟩
  | none => ⟨f.offset, f.offset⟩

end TypeScriptRepl.Toml
