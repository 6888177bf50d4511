import TypeScriptRepl.Path.Basic
import TypeScriptRepl.Report.ErrorChain
import TypeScriptRepl.Session.History
import TypeScriptRepl.Settings.Json

/-! The command that runs a harness. -/
namespace TypeScriptRepl.Session

open Text

/-- A command with its arguments and the variables that it is given besides those of its parent. -/
structure Launch where
  program : String
  arguments : List (List UInt8)
  environment : List (String × List UInt8)
deriving Repr, DecidableEq, Inhabited

namespace Launch

private def bytes (s : String) : List UInt8 := Utf8.encode s.toList

/-- The command that runs a harness. `history` is the file of the history, if the user chose it. -/
def of (s : RunnerSettings) (o : CompilerOptions) (history : Option Path) (harness : Path) : Launch :=
  ⟨s.command,
    [bytes "--compilerOptions", bytes o.toJson.toText] ++
      s.register.flatMap (fun m => [bytes "-r", bytes m]) ++
      (if s.transpileOnly then [bytes "--transpile-only"] else []) ++ [harness.bytes],
    [("REPL", bytes "1"), ("TS_REPL", bytes "1")] ++
      (history.map fun h => (Harness.Options.standard.historyVariable, h.bytes)).toList⟩

end Launch

/-- Why a command did not start, with what the system says about it. -/
inductive LaunchError where
  | notFound (command cause : String)
  | notStarted (command cause : String)
deriving Repr, DecidableEq, Inhabited

namespace LaunchError

def message : LaunchError → String
  | notFound command _ =>
    "'" ++ command ++ "' was not found; install it with `npm install -g ts-node typescript` " ++
      "or set [runner] command in ts-repl.toml"
  | notStarted command _ => "failed to start '" ++ command ++ "'"

def cause : LaunchError → String
  | notFound _ c => c
  | notStarted _ c => c

def chain (e : LaunchError) : Report.ErrorChain := (Report.ErrorChain.of e.message).causedBy e.cause

end LaunchError
end TypeScriptRepl.Session
