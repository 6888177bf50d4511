import TypeScriptRepl.Harness.Options
import TypeScriptRepl.Path.Basic
import TypeScriptRepl.Text.Blank

/-! Where the history of sessions is kept. -/
namespace TypeScriptRepl.Session.History

open Text

/-- The file of the history, which a user may override: a path that is not absolute starts from the
home directory, and so does one that begins with a tilde. A blank override is none. -/
def resolve (home : Option Path) (override : Option String) : Option Path :=
  match trim ((override.getD "").toList) with
  | [] => home.map (·.join (.ofString Harness.Options.standard.historyFileName))
  | ['~'] => home
  | '~' :: '/' :: rest => home.map (·.join ⟨Utf8.encode rest⟩)
  | path =>
    let p : Path := ⟨Utf8.encode path⟩
    if p.isAbsolute then some p else home.map (·.join p)

/-- The file that a user asks for, if that is not a blank text. -/
def override? (home : Option Path) (value : Option String) : Option Path :=
  value.bind fun v => if (trim v.toList).isEmpty then none else resolve home (some v)

end TypeScriptRepl.Session.History
