import TypeScriptRepl.Toml.Trivia

/-! Strings of TOML, on one line or on several ones, with escapes or without. -/
namespace TypeScriptRepl.Toml

open Reader

def isUnescaped (c : Char) : Bool := isPlain c && c ≠ '"' && c ≠ '\\'

def isLiteral (c : Char) : Bool := isPlain c && c ≠ '\''

def hexOf (ds : List Char) : Nat :=
  ds.foldl (fun n d =>
    n * 16 + if isDigit d then d.toNat - 48 else if 'a' ≤ d then d.toNat - 87 else d.toNat - 55) 0

def codePoint (digits : Nat) : Reader Char :=
  (exactly digits isHexDigit).check fun ds =>
    let n := hexOf ds
    if n < 0xD800 ∨ (0xDFFF < n ∧ n < 0x110000) then .ok (Char.ofNat n)
    else .error "value is out of range"

def escapes : List String := ["`b`", "`f`", "`n`", "`r`", "`t`", "`u`", "`U`", "`\\`", "`\"`"]

def escape : Reader Char := do
  word "\\"
  match ← any with
  | 'b' => pure '\x08'
  | 'f' => pure '\x0c'
  | 'n' => pure '\n'
  | 'r' => pure '\r'
  | 't' => pure '\t'
  | '\\' => pure '\\'
  | '"' => pure '"'
  | 'u' => (commit (codePoint 4)).labelled "unicode 4-digit hex code"
  | 'U' => (commit (codePoint 8)).labelled "unicode 8-digit hex code"
  | _ => ((commit fail).labelled "escape sequence").expecting escapes

def basic : Reader (List Char) := do
  word "\""
  let parts ← many (orElse (takeWhile₁ isUnescaped) (do return [← escape]))
  (commit (word "\"")).labelled "basic string"
  return parts.flatten

def literal : Reader (List Char) := labelled "literal string" do
  word "'"
  let cs ← takeWhile isLiteral
  commit (word "'")
  return cs

/-- A line end that a backslash stands before, and the blanks and line ends after it. -/
def continuation : Reader (List Char) := do
  word "\\"
  blanks
  newline
  let _ ← many (orElse newline (do let _ ← takeWhile₁ isBlank))
  return []

def lineEnd : Reader (List Char) := do
  newline
  return ['\n']

/-- One or two quotes that do not end the string, or quotes at its end. -/
def innerQuotes (quote : String) (after : Reader Unit) : Reader (List Char) :=
  let quotes (text : String) : Reader (List Char) := do
    word text
    ahead after
    return text.toList
  orElse (quotes (quote ++ quote)) (quotes quote)

def notQuote (quote : Char) : Reader Unit := do let _ ← char (· ≠ quote)

/-- The content of a string that may go over several lines. -/
def multiline (quote : Char) (content : Reader (List Char)) : Reader (List Char) := do
  let one := String.singleton quote
  let delimiter := one ++ one ++ one
  word delimiter
  let _ ← attempt newline
  let first ← many content
  let more ← many do
    let quotes ← innerQuotes one (notQuote quote)
    let c ← content
    return quotes ++ c ++ (← many content).flatten
  let last ← attempt (innerQuotes one (word delimiter))
  commit (word delimiter)
  return first.flatten ++ more.flatten ++ last.getD []

def multilineBasic : Reader (List Char) :=
  labelled "multiline basic string" <| multiline '"' <|
    orElse (takeWhile₁ isUnescaped) (orElse continuation (orElse (do return [← escape]) lineEnd))

def multilineLiteral : Reader (List Char) :=
  labelled "multiline literal string" <| multiline '\'' <|
    orElse (takeWhile₁ isLiteral) lineEnd

/-- A string on one line, as it may also stand for a key. -/
def quoted : Reader String := do
  return String.ofList (← if (← rest).head? = some '"' then basic else literal)

def text : Reader String := do
  return String.ofList (← orElse multilineBasic (orElse basic (orElse multilineLiteral literal)))

end TypeScriptRepl.Toml
