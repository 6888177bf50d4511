/-! Settings: how a harness is run, how it is compiled, and what its session offers. -/
namespace TypeScriptRepl

/-- The command that compiles and runs a harness, and the modules that it loads before. -/
structure RunnerSettings where
  command : String
  register : List String
  transpileOnly : Bool
deriving Repr, DecidableEq, Inhabited

structure CompilerOptions where
  strict : Bool
  esModuleInterop : Bool
  allowJs : Bool
  noUnusedLocals : Bool
  noUnusedParameters : Bool
deriving Repr, DecidableEq, Inhabited

/-- Where a harness is written: next to its source, or in the directory of temporary files. -/
inductive Placement where
  | sibling
  | temp
deriving Repr, DecidableEq, Inhabited

structure HarnessSettings where
  placement : Placement
  keep : Bool
  reload : Bool
  prompt : String
deriving Repr, DecidableEq, Inhabited

structure Settings where
  runner : RunnerSettings
  compilerOptions : CompilerOptions
  harness : HarnessSettings
deriving Repr, DecidableEq, Inhabited

def RunnerSettings.standard : RunnerSettings := ⟨"ts-node", ["tsconfig-paths/register"], false⟩

def CompilerOptions.standard : CompilerOptions := ⟨true, true, true, true, true⟩

/-- Without the checks that reject unfinished code. -/
def CompilerOptions.loosen (o : CompilerOptions) : CompilerOptions :=
  { o with strict := false, noUnusedLocals := false, noUnusedParameters := false }

def Placement.text : Placement → String
  | sibling => "sibling"
  | temp => "temp"

def HarnessSettings.standard : HarnessSettings := ⟨.sibling, false, true, "> "⟩

def Settings.standard : Settings := ⟨.standard, .standard, .standard⟩

end TypeScriptRepl
