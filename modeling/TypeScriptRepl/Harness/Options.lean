/-! What a session is told by its harness. -/
namespace TypeScriptRepl.Harness

/-- The prompt; the environment variable that names the history file, and the name of that file in
the home directory if the variable does not; and the command line that runs the session again. -/
structure Options where
  prompt : String
  historyVariable : String
  historyFileName : String
  reloadCommand : Option (List String)
deriving Repr, DecidableEq, Inhabited

namespace Options

def standard : Options := ⟨"> ", "TS_REPL_HISTFILE", ".ts_repl_history", none⟩

/-- The command line that runs the session again, if there is one that is not empty. -/
def reload? (o : Options) : Option (List String) := o.reloadCommand.filter (!·.isEmpty)

end Options
end TypeScriptRepl.Harness
