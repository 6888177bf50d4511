import TypeScriptRepl.Json.Text
import TypeScriptRepl.Settings.Basic

/-!
Settings as JSON values. A record may also be given as the list of its first fields, and what is
absent keeps its default.
-/
namespace TypeScriptRepl

namespace RunnerSettings

def toJson (s : RunnerSettings) : Json :=
  .object [("command", .string s.command), ("register", .ofStrings s.register),
    ("transpile_only", .bool s.transpileOnly)]

def ofJson? (j : Json) : Option RunnerSettings := do
  let r ← j.record? ["command", "register", "transpile_only"]
  let command ← r.fieldOr? Json.string? standard.command "command"
  let register ← r.fieldOr? Json.strings? standard.register "register"
  let transpileOnly ← r.fieldOr? Json.bool? standard.transpileOnly "transpile_only"
  return ⟨command, register, transpileOnly⟩

end RunnerSettings

namespace CompilerOptions

def toJson (o : CompilerOptions) : Json :=
  .object [("strict", .bool o.strict), ("esModuleInterop", .bool o.esModuleInterop),
    ("allowJs", .bool o.allowJs), ("noUnusedLocals", .bool o.noUnusedLocals),
    ("noUnusedParameters", .bool o.noUnusedParameters)]

def ofJson? (j : Json) : Option CompilerOptions := do
  let r ← j.record? ["strict", "esModuleInterop", "allowJs", "noUnusedLocals", "noUnusedParameters"]
  let strict ← r.fieldOr? Json.bool? standard.strict "strict"
  let esModuleInterop ← r.fieldOr? Json.bool? standard.esModuleInterop "esModuleInterop"
  let allowJs ← r.fieldOr? Json.bool? standard.allowJs "allowJs"
  let noUnusedLocals ← r.fieldOr? Json.bool? standard.noUnusedLocals "noUnusedLocals"
  let noUnusedParameters ← r.fieldOr? Json.bool? standard.noUnusedParameters "noUnusedParameters"
  return ⟨strict, esModuleInterop, allowJs, noUnusedLocals, noUnusedParameters⟩

end CompilerOptions

def HarnessSettings.toJson (s : HarnessSettings) : Json :=
  .object [("placement", .string s.placement.text), ("keep", .bool s.keep),
    ("reload", .bool s.reload), ("prompt", .string s.prompt)]

def Settings.toJson (s : Settings) : Json :=
  .object [("runner", s.runner.toJson), ("compiler_options", s.compilerOptions.toJson),
    ("harness", s.harness.toJson)]

end TypeScriptRepl
