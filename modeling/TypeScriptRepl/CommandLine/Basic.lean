import TypeScriptRepl.Path.Basic
import TypeScriptRepl.Settings.Basic

/-! What a command line may say, and what it changes in the settings. -/
namespace TypeScriptRepl

namespace CommandLine

/-- Options without a value. -/
inductive Switch where
  | transpileOnly
  | loose
  | keep
  | noReload
  | print
  | tempDir
  | help
  | version
deriving Repr, DecidableEq, Inhabited

/-- What is written on a command line: a switch, the file with the settings, or the source file. -/
inductive Argument where
  | switch (s : Switch)
  | config
  | file
deriving Repr, DecidableEq, Inhabited

end CommandLine

/-- A command line that has been read. -/
structure CommandLine where
  file : Path
  switches : List CommandLine.Switch
  config : Option Path
deriving Repr, DecidableEq, Inhabited

namespace CommandLine

def has (c : CommandLine) (s : Switch) : Bool := c.switches.contains s

/-- The settings with what the command line says about them. -/
def apply (c : CommandLine) (s : Settings) : Settings where
  runner := { s.runner with transpileOnly := c.has .transpileOnly || s.runner.transpileOnly }
  compilerOptions := if c.has .loose then s.compilerOptions.loosen else s.compilerOptions
  harness :=
    { s.harness with
      placement := if c.has .tempDir then .temp else s.harness.placement
      keep := c.has .keep || s.harness.keep
      reload := !c.has .noReload && s.harness.reload }

end CommandLine
end TypeScriptRepl
