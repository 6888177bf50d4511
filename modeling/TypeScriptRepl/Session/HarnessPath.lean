import TypeScriptRepl.Path.Basic
import TypeScriptRepl.Settings.Basic

/-! Where harnesses are written, and under which names. -/
namespace TypeScriptRepl.Session

open Text

/-- The name of the harness of a source, made at a time in milliseconds. -/
def harnessName (source : Path) (millis : Int) : String :=
  let base := (source.fileName?.map Utf8.decodeLossy).getD "module".toList
  ".tsrepl." ++ String.ofList base ++ "." ++ toString millis ++ ".ts"

/-- The directory for the harness of a source. `temp` is the directory of temporary files. -/
def harnessDirectory (temp source : Path) : Placement → Path
  | .sibling =>
    match source.parent? with
    | some p => if p.isEmpty then .ofString "." else p
    | none => .ofString "."
  | .temp => temp.child "ts-repl"

end TypeScriptRepl.Session
