import TypeScriptRepl.Report.Style

/-! Errors with their causes. -/
namespace TypeScriptRepl.Report

/-- What went wrong, and why, the nearest cause first. -/
structure ErrorChain where
  primary : String
  causes : List String
deriving Repr, DecidableEq, Inhabited

namespace ErrorChain

def of (primary : String) : ErrorChain := ⟨primary, []⟩

/-- Adds a cause of the last cause. -/
def causedBy (e : ErrorChain) (cause : String) : ErrorChain := { e with causes := e.causes ++ [cause] }

/-- Says what failed because of the error. -/
def context (e : ErrorChain) (primary : String) : ErrorChain := ⟨primary, e.primary :: e.causes⟩

def text (e : ErrorChain) : String :=
  e.primary ++ String.join (e.causes.map ("\n  caused by: " ++ ·))

/-- The text after a label. -/
def render (color : Bool) (e : ErrorChain) : String := red color "error:" ++ " " ++ e.text

end ErrorChain
end TypeScriptRepl.Report
