import TypeScriptRepl.Path.Basic
import TypeScriptRepl.Report.Style

/-! Environment variables, and what they tell. -/
namespace TypeScriptRepl.Session

open Text

/-- Variables with their values. Of several values of one variable, the last one counts. -/
abbrev Variables := List (String × List UInt8)

namespace Variables

def value? (v : Variables) (name : String) : Option (List UInt8) :=
  (v.reverse.find? (·.1 = name)).map (·.2)

/-- The value of a variable, if it is text. -/
def text? (v : Variables) (name : String) : Option String :=
  ((v.value? name).bind Utf8.decode?).map String.ofList

def color (v : Variables) : Bool :=
  Report.colorEnabled ((v.value? "NO_COLOR").map fun bytes => String.ofList (Utf8.decodeLossy bytes))

/-- The home directory: that of the variables, or else that of the user. -/
def home (v : Variables) (user : Path) : Path :=
  match v.value? "HOME" with
  | none | some [] => user
  | some bytes => ⟨bytes⟩

/-- The directory of temporary files. -/
def temp (v : Variables) : Path := ((v.value? "TMPDIR").map Path.mk).getD (.ofString "/tmp")

end Variables
end TypeScriptRepl.Session
