import TypeScriptRepl.Text.Shapeless

/-! Texts in quotes, as messages show them. -/
namespace TypeScriptRepl.Text

private def escapeShown (c : Char) : List Char :=
  if c = '\x00' then ['\\', '0']
  else if c = '\t' then ['\\', 't']
  else if c = '\r' then ['\\', 'r']
  else if c = '\n' then ['\\', 'n']
  else if c = '\\' ∨ c = '"' then ['\\', c]
  else if isShapeless c then "\\u\x7b".toList ++ Nat.toDigits 16 c.toNat ++ ['\x7d']
  else [c]

/-- A text in quotes, in which quotes, backslashes and characters without a shape are escaped. -/
def escaped (s : String) : String := String.ofList ('"' :: s.toList.flatMap escapeShown ++ ['"'])

end TypeScriptRepl.Text
