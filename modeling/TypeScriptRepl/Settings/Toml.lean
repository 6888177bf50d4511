import TypeScriptRepl.Settings.Basic
import TypeScriptRepl.Text.Escaped
import TypeScriptRepl.Toml.Document
import TypeScriptRepl.Toml.Excerpt

/-!
Settings as TOML documents. Each section is a table, or an array of the values of its first fields;
what is absent keeps its default, and keys that a section does not have are ignored. Of several values
that do not fit, the first one in the document is reported.
-/
namespace TypeScriptRepl.Settings

open Toml

/-- What does not fit, and where it stands. -/
structure Mismatch where
  message : String
  range : Option Range
deriving Repr, DecidableEq, Inhabited

/-- A value under a name, and where it stands, or the name does. -/
structure Field where
  name : String
  item : Toml.Item
  range : Option Range

abbrev Decoded (α : Type) := Except Mismatch α

def foundText : Toml.Item → String
  | .string s _ => "string " ++ Text.escaped s
  | .integer n _ => "integer `" ++ toString n ++ "`"
  | .float x _ => "floating point `" ++ x.text ++ "`"
  | .boolean b _ => "boolean `" ++ (if b then "true" else "false") ++ "`"
  | .array .. | .tables _ => "sequence"
  | .datetime _ | .table .. => "map"

def wrongType (i : Toml.Item) (expected : String) : Decoded α :=
  .error ⟨"invalid type: " ++ foundText i ++ ", expected " ++ expected, i.range?⟩

def string (i : Toml.Item) : Decoded String :=
  match i with
  | .string s _ => .ok s
  | i => wrongType i "a string"

def boolean (i : Toml.Item) : Decoded Bool :=
  match i with
  | .boolean b _ => .ok b
  | i => wrongType i "a boolean"

def strings (i : Toml.Item) : Decoded (List String) :=
  match i with
  | .array items _ => items.mapM string
  | .tables elements => elements.mapM string
  | i => wrongType i "a sequence"

def variant (name : String) (range : Option Range) : Decoded Placement :=
  match [Placement.sibling, .temp].find? (·.text = name) with
  | some p => .ok p
  | none => .error ⟨"unknown variant `" ++ name ++ "`, expected `sibling` or `temp`", range⟩

/-- What may stand beside the name of a variant: nothing that holds anything. -/
def unit (i : Toml.Item) : Decoded Unit :=
  match i with
  | .table _ _ [] | .array [] _ | .tables [] => .ok ()
  | .table .. => .error ⟨"expected empty table", i.range?⟩
  | .array .. | .tables _ => .error ⟨"expected empty array", i.range?⟩
  | i => .error ⟨"expected table, found " ++ i.kindName, i.range?⟩

/-- A placement is its name, or a table with nothing but an entry of this name. -/
def placement (i : Toml.Item) : Decoded Placement :=
  match i with
  | .string s range => variant s (some range)
  | .table _ _ [(k, v)] => do
    let p ← variant k.name (some k.range)
    unit v
    return p
  | .table _ range [] => .error ⟨"wanted exactly 1 element, found 0 elements", range⟩
  | .table _ range _ => .error ⟨"wanted exactly 1 element, more than 1 element", range⟩
  | i => .error ⟨"wanted string or table", i.range?⟩

/-- The range of an error without one is that of the field. -/
def located (f : Field) (r : Decoded α) : Decoded α :=
  r.mapError fun e => { e with range := e.range.or f.range }

/-- The fields of a record with the names `names`. -/
def fields (names : List String) (expected : String) (i : Toml.Item) : Decoded (List Field) :=
  let listed (items : List Toml.Item) : List Field :=
    (names.zip items).map fun (name, i) => ⟨name, i, i.range?⟩
  match i with
  | .table _ _ entries => .ok (entries.map fun (k, i) => ⟨k.name, i, i.range?.or (some k.range)⟩)
  | .array items _ => .ok (listed items)
  | .tables elements => .ok (listed elements)
  | .datetime _ => .ok []
  | i => wrongType i expected

/-- A record: each field in turn sets what it stands for. -/
def record (names : List String) (expected : String) (default : α)
    (set : α → String → Toml.Item → Decoded α) (i : Toml.Item) : Decoded α := do
  (← fields names expected i).foldlM (fun a f => located f (set a f.name f.item)) default

def setRunner (s : RunnerSettings) (name : String) (i : Toml.Item) : Decoded RunnerSettings :=
  match name with
  | "command" => return { s with command := ← string i }
  | "register" => return { s with register := ← strings i }
  | "transpile_only" => return { s with transpileOnly := ← boolean i }
  | _ => return s

def setCompilerOption (o : CompilerOptions) (name : String) (i : Toml.Item) :
    Decoded CompilerOptions :=
  match name with
  | "strict" => return { o with strict := ← boolean i }
  | "esModuleInterop" => return { o with esModuleInterop := ← boolean i }
  | "allowJs" => return { o with allowJs := ← boolean i }
  | "noUnusedLocals" => return { o with noUnusedLocals := ← boolean i }
  | "noUnusedParameters" => return { o with noUnusedParameters := ← boolean i }
  | _ => return o

def setHarness (s : HarnessSettings) (name : String) (i : Toml.Item) : Decoded HarnessSettings :=
  match name with
  | "placement" => return { s with placement := ← placement i }
  | "keep" => return { s with keep := ← boolean i }
  | "reload" => return { s with reload := ← boolean i }
  | "prompt" => return { s with prompt := ← string i }
  | _ => return s

def runnerSection : Toml.Item → Decoded RunnerSettings :=
  record ["command", "register", "transpile_only"] "struct RunnerSection" .standard setRunner

def compilerSection : Toml.Item → Decoded CompilerOptions :=
  record ["strict", "esModuleInterop", "allowJs", "noUnusedLocals", "noUnusedParameters"]
    "struct CompilerOptions" .standard setCompilerOption

def harnessSection : Toml.Item → Decoded HarnessSettings :=
  record ["placement", "keep", "reload", "prompt"] "struct HarnessSection" .standard setHarness

def setSection (s : Settings) (name : String) (i : Toml.Item) : Decoded Settings :=
  match name with
  | "runner" => return { s with runner := ← runnerSection i }
  | "compiler_options" => return { s with compilerOptions := ← compilerSection i }
  | "harness" => return { s with harness := ← harnessSection i }
  | _ => return s

/-- The settings of a document's entries. -/
def ofEntries (entries : List (Key × Toml.Item)) : Except Mismatch Settings :=
  record ["runner", "compiler_options", "harness"] "struct Settings" .standard setSection
    (.table .header none entries)

/-- Why a text holds no settings: it is no TOML document, or one that does not fit. -/
inductive TomlError where
  | document (f : Fault)
  | content (m : Mismatch)
deriving Repr, DecidableEq, Inhabited

namespace TomlError

/-- The error with the line of the text in which it is. -/
def report (source : String) : TomlError → String
  | document f => excerpt source.toList (f.range source.toList) f.message
  | content m =>
    match m.range with
    | some range => excerpt source.toList range m.message
    | none => m.message ++ "\n"

end TomlError

/-- The settings that a text holds. -/
def ofToml (source : String) : Except TomlError Settings := do
  let entries ← (Toml.parse source).mapError .document
  (ofEntries entries).mapError .content

end TypeScriptRepl.Settings
