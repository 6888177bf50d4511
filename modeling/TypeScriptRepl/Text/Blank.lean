/-! Blanks: the characters with the Unicode property White_Space. -/
namespace TypeScriptRepl.Text

def isBlank (c : Char) : Bool :=
  let x := c.toNat
  (0x9 ≤ x && x ≤ 0xD) || x = 0x20 || x = 0x85 || x = 0xA0 || x = 0x1680 ||
    (0x2000 ≤ x && x ≤ 0x200A) || x = 0x2028 || x = 0x2029 || x = 0x202F || x = 0x205F || x = 0x3000

/-- The text without blanks at its end. -/
def trimEnd (cs : List Char) : List Char := (cs.reverse.dropWhile isBlank).reverse

/-- The text without blanks at either end. -/
def trim (cs : List Char) : List Char := trimEnd (cs.dropWhile isBlank)

end TypeScriptRepl.Text
