/-! What is wrong with a text that is read, and where. -/
namespace TypeScriptRepl.Toml

/-- A half-open range of bytes. -/
structure Range where
  start : Nat
  stop : Nat
deriving Repr, DecidableEq, Inhabited

/-- A text cannot be read from the byte `offset` on. `label` says what was being read, `expected` what
could have stood there, and `cause` what is wrong with what stands there. -/
structure Fault where
  offset : Nat
  label : Option String
  expected : List String
  cause : Option String
deriving Repr, DecidableEq, Inhabited

namespace Fault

def message (f : Fault) : String :=
  "\n".intercalate (f.label.toList.map ("invalid " ++ ·) ++
    (if f.expected.isEmpty then [] else ["expected " ++ ", ".intercalate f.expected]) ++
    f.cause.toList)

/-- Says what was being read. Of several labels, the first one counts. -/
def labelled (label : String) (f : Fault) : Fault := { f with label := f.label.or (some label) }

/-- Says what else could have stood there. -/
def expecting (expected : List String) (f : Fault) : Fault :=
  { f with expected := f.expected ++ expected }

end Fault
end TypeScriptRepl.Toml
