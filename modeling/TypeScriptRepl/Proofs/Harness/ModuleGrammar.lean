import TypeScriptRepl.Harness.Basic
import TypeScriptRepl.Proofs.Export.Insertion
import TypeScriptRepl.Proofs.Program.Denotation

/-!
What a harness asks of the grammar of modules: the lines it adds to a text are statements of their
own, which change nothing of what the text says.
-/
namespace TypeScriptRepl

open Syntax

def Text.follow (source : List Char) (parts : List (List Char)) : List Char :=
  source ++ parts.flatMap ('\n' :: ·)

namespace Harness

/-- A text followed by the begin marker, as a harness has it. -/
def marked (source : String) : String :=
  String.ofList (source.toList ++ separator source.toList ++ '\n' :: beginMarker.toList)

def comments : List String :=
  ["// Additional exports for non-exported top-level symbols", "// REPL setup code"]

/-- The block after its export statements: the text that starts the session. -/
def bootstrap (symbols : SymbolSet) : List Char :=
  ((pieces [] symbols .standard).drop 3).flatMap Piece.text

def bootstrapItems : List (List Item) :=
  ["repl", "vm", "path", "os"].map (fun m => [.imports ⟨[⟨internalName m, default⟩], default⟩]) ++
  [[.declares ⟨internalName "allSymbols", .variable, false, default⟩]] ++
  ["listAvailableSymbols", "loadModuleSymbols", "createContext", "isRecoverable",
    "startSession"].map (fun f => [.declares ⟨internalName f, .function, false, default⟩]) ++
  [[.declares ⟨internalName "moduleSymbols", .variable, false, default⟩], []]

/-- The names that are read as modifiers at the beginning of a specifier. -/
def specifierModifiers : List String := ["type", "typeof"]

section

variable (grammar : List Char → Option Node)

/-- A line that is added to a text. -/
inductive AddedLine : List Char → Prop
  | blank : AddedLine []
  | comment {c : String} (h : c ∈ comments) : AddedLine c.toList
  | statement {source : String} {p : Program} {st : ExportStatement}
      (hp : Program.parseBy grammar source = .ok p) (hst : st.name ∈ p.bindings.map (·.name)) :
      AddedLine st.text.toList

/-- A text after which no comment is open: the begin marker ends the last one. -/
def EndsComments (text : List Char) : Prop :=
  ∃ before parts, text = Text.follow (before ++ beginMarker.toList) parts ∧
    ∀ t ∈ parts, AddedLine grammar t

/-- What is relied on of the grammar of modules. -/
structure ModuleGrammar : Prop where
  blank : Accepts grammar [] []
  comment : ∀ c ∈ comments, Accepts grammar c.toList []
  /-- A line is read after a text as it is read alone, and changes nothing of what the text says. -/
  append {s t : List Char} {os ps : List Outline} : Accepts grammar s os → AddedLine grammar t →
    Accepts grammar t ps → ∃ qs, Restates qs os ∧ Accepts grammar (s ++ '\n' :: t) (qs ++ ps)
  /-- A name that a module binds can stand in an export clause. -/
  clause {source : String} {p : Program} {st : ExportStatement} :
    Program.parseBy grammar source = .ok p → st.name ∈ p.bindings.map (·.name) →
      st.name ∉ specifierModifiers →
      ∃ o, Accepts grammar st.text.toList [o] ∧ o.Form [st.clause default]
  /-- In an export clause, a modifier that no name follows is an error, whatever comes next. -/
  modifier {s : List Char} {os ps : List Outline} {st : ExportStatement}
    {parts : List (List Char)} : Accepts grammar s os → st.name ∈ specifierModifiers →
      (∀ t ∈ parts, AddedLine grammar t) →
      ¬Accepts grammar (Text.follow (s ++ '\n' :: st.text.toList) parts) ps
  /-- The session is TypeScript, where the comment on its last line ends no other comment. -/
  session {s : List Char} {os : List Outline} : Accepts grammar s os → EndsComments grammar s →
    ∀ symbols, ∃ qs ps, Restates qs os ∧ List.Forall₂ Outline.Form ps bootstrapItems ∧
      Accepts grammar (s ++ '\n' :: bootstrap symbols) (qs ++ ps)

end

variable {grammar : List Char → Option Node}

theorem ModuleGrammar.reads_append (hg : ModuleGrammar grammar) {s t : List Char}
    {is js : List Item} (hs : Reads grammar s is) (hl : AddedLine grammar t)
    (ht : Reads grammar t js) : Reads grammar (s ++ '\n' :: t) (is ++ js) := by
  obtain ⟨os, hs, hd⟩ := hs
  obtain ⟨ps, ht, he⟩ := ht
  obtain ⟨qs, hq, ha⟩ := hg.append hs hl ht
  exact ⟨qs ++ ps, ha, (hq is hd).append he⟩

/-- Lines are read after a text as each of them is read alone. -/
theorem ModuleGrammar.reads_follow (hg : ModuleGrammar grammar) {parts : List (List Char)}
    {iss : List (List Item)}
    (hp : List.Forall₂ (fun t js => AddedLine grammar t ∧ Reads grammar t js) parts iss)
    {s : List Char} {is : List Item} (hs : Reads grammar s is) :
    Reads grammar (Text.follow s parts) (is ++ iss.flatten) := by
  induction hp generalizing s is with
  | nil => simpa [Text.follow] using hs
  | cons h _ ih => simpa [Text.follow] using ih (hg.reads_append hs h.1 h.2)

theorem ModuleGrammar.reads_session (hg : ModuleGrammar grammar) {s : List Char} {is : List Item}
    (hs : Reads grammar s is) (he : EndsComments grammar s) (symbols : SymbolSet) :
    Reads grammar (s ++ '\n' :: bootstrap symbols) (is ++ bootstrapItems.flatten) := by
  obtain ⟨os, hs, hd⟩ := hs
  obtain ⟨qs, ps, hq, hf, ha⟩ := hg.session hs he symbols
  exact ⟨qs ++ ps, ha, (hq is hd).append (.ofForms hf)⟩

end Harness
end TypeScriptRepl
