import TypeScriptRepl.CommandLine.Usage
import TypeScriptRepl.Proofs.Settings.Fields
import TypeScriptRepl.Proofs.Toml.Document

/-! The layers of the settings: what is standard, what a document says, and what the flags force. -/
namespace TypeScriptRepl

/-! ### Flags -/

namespace CommandLine

def Switch.isWritten (s : Switch) (flag : String) : Bool :=
  flag = "--" ++ s.long || s.short?.any fun l => flag = "-" ++ l.toString

def gives (c : CommandLine) (flag : String) : Bool := c.switches.any (·.isWritten flag)

theorem gives_eq_has {flag : String} {s : Switch} (h : ∀ t : Switch, t.isWritten flag = (s == t))
    (c : CommandLine) : c.gives flag = c.has s := by
  rw [gives, has, List.contains_eq_any_beq]
  congr 1
  exact funext h

theorem gives_transpileOnly (c : CommandLine) : c.gives "-T" = c.has .transpileOnly :=
  gives_eq_has (fun t => by cases t <;> decide) c

theorem gives_loose (c : CommandLine) : c.gives "--loose" = c.has .loose :=
  gives_eq_has (fun t => by cases t <;> decide) c

theorem gives_keep (c : CommandLine) : c.gives "--keep" = c.has .keep :=
  gives_eq_has (fun t => by cases t <;> decide) c

theorem gives_noReload (c : CommandLine) : c.gives "--no-reload" = c.has .noReload :=
  gives_eq_has (fun t => by cases t <;> decide) c

theorem gives_tempDir (c : CommandLine) : c.gives "--temp-dir" = c.has .tempDir :=
  gives_eq_has (fun t => by cases t <;> decide) c

end CommandLine

namespace Settings
open Toml

namespace Setting

def flag? : (f : Setting) → Option (String × f.Value)
  | transpileOnly => some ("-T", true)
  | strict => some ("--loose", false)
  | noUnusedLocals => some ("--loose", false)
  | noUnusedParameters => some ("--loose", false)
  | keep => some ("--keep", true)
  | reload => some ("--no-reload", false)
  | placement => some ("--temp-dir", Placement.temp)
  | command | register | esModuleInterop | allowJs | prompt => none

def forced (f : Setting) (c : CommandLine) : Option f.Value :=
  f.flag?.bind fun (flag, v) => if c.gives flag then some v else none

end Setting

theorem forced_congr {f : Setting} {c c' : CommandLine}
    (h : ∀ flag v, f.flag? = some (flag, v) → c'.gives flag = c.gives flag) :
    f.forced c' = f.forced c := by
  unfold Setting.forced
  cases hf : f.flag? with
  | none => rfl
  | some x =>
    obtain ⟨flag, v⟩ := x
    simp only [Option.bind_some, h flag v hf]

theorem getD_forced {f : Setting} {flag : String} {v : f.Value} (hflag : f.flag? = some (flag, v))
    {c : CommandLine} {b : Bool} (hgives : c.gives flag = b) (w : f.Value) :
    (f.forced c).getD w = if b = true then v else w := by
  rw [Setting.forced, hflag, Option.bind_some]
  dsimp only
  rw [hgives]
  cases b <;> rfl

theorem get_apply (c : CommandLine) (s : Settings) (f : Setting) :
    f.get (c.apply s) = (f.forced c).getD (f.get s) := by
  -- a field of the compiler options, of which there are two versions
  have hoptions {V : Type} (field : CompilerOptions → V) : field (c.apply s).compilerOptions =
      if c.has .loose then field s.compilerOptions.loosen else field s.compilerOptions :=
    apply_ite field _ _ _
  cases f with
  | command | register | prompt => rfl
  | transpileOnly =>
    rw [getD_forced rfl c.gives_transpileOnly]
    change (c.has .transpileOnly || s.runner.transpileOnly) = _
    cases c.has .transpileOnly <;> rfl
  | esModuleInterop => exact (hoptions CompilerOptions.esModuleInterop).trans (ite_self _)
  | allowJs => exact (hoptions CompilerOptions.allowJs).trans (ite_self _)
  | strict =>
    rw [getD_forced rfl c.gives_loose]
    exact hoptions CompilerOptions.strict
  | noUnusedLocals =>
    rw [getD_forced rfl c.gives_loose]
    exact hoptions CompilerOptions.noUnusedLocals
  | noUnusedParameters =>
    rw [getD_forced rfl c.gives_loose]
    exact hoptions CompilerOptions.noUnusedParameters
  | placement =>
    rw [getD_forced rfl c.gives_tempDir]
    rfl
  | keep =>
    rw [getD_forced rfl c.gives_keep]
    change (c.has .keep || s.harness.keep) = _
    cases c.has .keep <;> rfl
  | reload =>
    rw [getD_forced rfl c.gives_noReload]
    change (!c.has .noReload && s.harness.reload) = _
    cases c.has .noReload <;> rfl

/-! ### What a document assigns -/

namespace Setting

def all : List Setting :=
  [command, register, transpileOnly, strict, esModuleInterop, allowJs, noUnusedLocals,
    noUnusedParameters, placement, keep, reload, prompt]

def named? (part key : String) : Option Setting :=
  all.find? fun f => f.within.name = part ∧ f.key = key

theorem named?_eq_some_iff {part key : String} {f : Setting} :
    named? part key = some f ↔ f.within.name = part ∧ f.key = key := by
  constructor
  · intro h
    simpa using List.find?_some h
  · rintro ⟨rfl, rfl⟩
    cases f <;> decide

end Setting

/-- What a document says about a field: nothing, or a value, which may not fit the field. -/
def Setting.said? (f : Setting) (entries : List (Key × Toml.Item)) : Option (Option f.Value) :=
  (f.item? entries).map f.decode

/-- What a document says about fields, in its order. Other keys and other tables say nothing, and what
does not fit its field says `none`. -/
def assignments (entries : List (Key × Toml.Item)) : List (Σ f : Setting, Option f.Value) :=
  entries.flatMap fun (part, t) => (Table.entriesOf t).filterMap fun (key, i) =>
    (Setting.named? part.name key.name).map fun f => ⟨f, f.decode i⟩

variable {entries entries' : List (Key × Toml.Item)} {s : Settings}

theorem mem_assignments_iff (hentries : AreProper entries) {f : Setting} {v : Option f.Value} :
    ⟨f, v⟩ ∈ assignments entries ↔ f.said? entries = some v := by
  constructor
  · intro h
    obtain ⟨⟨part, t⟩, ht, h⟩ := List.mem_flatMap.1 h
    obtain ⟨⟨key, i⟩, hi, h⟩ := List.mem_filterMap.1 h
    obtain ⟨g, hg, h⟩ := Option.map_eq_some_iff.1 h
    cases h
    obtain ⟨hpart, hkey⟩ := Setting.named?_eq_some_iff.1 hg
    have hinner := Table.areProper_entriesOf (hentries.2 _ ht)
    rw [Setting.said?, Setting.item?, hpart, lookup?_of_mem hentries.1 ht, Option.bind_some, hkey,
      lookup?_of_mem hinner.1 hi, Option.map_some]
  · intro h
    obtain ⟨i, hi, rfl⟩ := Option.map_eq_some_iff.1 h
    obtain ⟨t, ht, hi⟩ := Option.bind_eq_some_iff.1 hi
    obtain ⟨part, hpart, hpartName⟩ := exists_mem_of_lookup? ht
    obtain ⟨key, hkey, hkeyName⟩ := exists_mem_of_lookup? hi
    refine List.mem_flatMap.2 ⟨_, hpart, List.mem_filterMap.2 ⟨_, hkey, ?_⟩⟩
    dsimp only
    rw [Setting.named?_eq_some_iff.2 ⟨hpartName.symm, hkeyName.symm⟩, Option.map_some]

theorem said?_eq_of_perm (hentries : AreProper entries) (hentries' : AreProper entries')
    (h : (assignments entries').Perm (assignments entries)) (f : Setting) :
    f.said? entries' = f.said? entries := by
  refine Option.ext fun v => ?_
  rw [← mem_assignments_iff hentries, ← mem_assignments_iff hentries', h.mem_iff]

/-- A field goes by what is said about it, or else it is as it is by default. -/
theorem getD_said? (hentries : AreProper entries) (htables : SectionsAreTables entries)
    (h : ofEntries entries = .ok s) (f : Setting) :
    (f.said? entries).getD (some f.standard) = some (f.get s) := by
  rw [← elim_item?_of_ofEntries hentries htables h f, Setting.said?]
  cases f.item? entries <;> rfl

/-- Documents that say the same about each field give the same settings. -/
theorem ofEntries_eq_ok (hentries : AreProper entries) (htables : SectionsAreTables entries)
    (h : ofEntries entries = .ok s) (hentries' : AreProper entries')
    (htables' : SectionsAreTables entries')
    (hsaid : ∀ f : Setting, f.said? entries' = f.said? entries) : ofEntries entries' = .ok s := by
  have hget (f : Setting) : (f.said? entries').getD (some f.standard) = some (f.get s) := by
    rw [hsaid, getD_said? hentries htables h]
  obtain ⟨s', hs'⟩ := exists_ofEntries hentries' htables' fun f i hi => by
    have hi' := hget f
    rw [Setting.said?, hi, Option.map_some, Option.getD_some] at hi'
    exact Option.isSome_iff_exists.2 ⟨_, hi'⟩
  have heq : s' = s := eq_of_get_eq fun f =>
    Option.some.inj ((getD_said? hentries' htables' hs' f).symm.trans (hget f))
  exact heq ▸ hs'

theorem ofToml_eq_ok_iff {source : String} (hparse : parse source = .ok entries) :
    ofToml source = .ok s ↔ ofEntries entries = .ok s := by
  rw [ofToml, hparse]
  change (ofEntries entries).mapError TomlError.content = .ok s ↔ _
  cases ofEntries entries <;> simp [Except.mapError]

/-! ### Layers -/

theorem apply_apply (c : CommandLine) (s : Settings) : c.apply (c.apply s) = c.apply s := by
  refine eq_of_get_eq fun f => ?_
  rw [get_apply, get_apply]
  cases f.forced c <;> rfl

theorem contents_eq_map_seen (htables : SectionsAreTables entries) (f : Setting) :
    contents entries [f.within.name, f.key] = (f.item? entries).map Toml.Item.seen := by
  unfold Setting.item?
  cases ht : lookup? f.within.name entries with
  | none => rw [contents_cons_of_none ht, Option.bind_none, Option.map_none]
  | some t =>
    obtain ⟨style, range, inner, rfl⟩ := htables _ _ ht
    rw [contents_cons_of_some ht, Option.bind_some, Option.map_eq_bind]
    rfl

/-- What the settings are when the flags of a command line have been applied to those of a document. -/
theorem layers_of_ofToml {source : String} {entries : List (Key × Toml.Item)} {file : Settings}
    (hparse : Toml.parse source = .ok entries) (htables : SectionsAreTables entries)
    (hfile : ofToml source = .ok file) (c : CommandLine) :
    -- the text is a document of TOML 1.0, and the entries are what its lines make
    (AreProper entries ∧ ∃ sts path,
      Spec.Document source.toList sts ∧ Spec.Builds sts path (contents entries)) ∧
    (∀ f : Setting, contents entries [f.within.name, f.key] = (f.item? entries).map Toml.Item.seen) ∧
    -- a field is what its flag forces, else what is in its place, else what is standard for it
    (∀ f : Setting, f.item? entries = none →
      f.get (c.apply file) = (f.forced c).getD f.standard) ∧
    (∀ (f : Setting) (i : Toml.Item), f.item? entries = some i →
      ∃ v, f.decode i = some v ∧ f.get (c.apply file) = (f.forced c).getD v) ∧
    -- in a document with the same assignments, in another order and between others, it is the same
    (∀ (source' : String) (entries' : List (Key × Toml.Item)), Toml.parse source' = .ok entries' →
      SectionsAreTables entries' → (assignments entries').Perm (assignments entries) →
        ofToml source' = .ok file) ∧
    -- no other flag and no other key changes it
    (∀ (f : Setting) (source' : String) (entries' : List (Key × Toml.Item)) (file' : Settings)
      (c' : CommandLine), Toml.parse source' = .ok entries' → SectionsAreTables entries' →
        ofToml source' = .ok file' → f.said? entries' = f.said? entries →
        (∀ flag v, f.flag? = some (flag, v) → c'.gives flag = c.gives flag) →
          f.get (c'.apply file') = f.get (c.apply file)) ∧
    c.apply (c.apply file) = c.apply file := by
  have hdocument := document_of_parse hparse
  have hentries := hdocument.1
  rw [ofToml_eq_ok_iff hparse] at hfile
  have hvalue := elim_item?_of_ofEntries hentries htables hfile
  refine ⟨hdocument, contents_eq_map_seen htables, ?absent, ?present, ?order, ?others,
    apply_apply c file⟩
  case absent =>
    intro f hf
    have hstandard := hvalue f
    rw [hf, Option.elim_none] at hstandard
    rw [get_apply, Option.some.inj hstandard]
  case present =>
    intro f i hi
    have hdecode := hvalue f
    rw [hi, Option.elim_some] at hdecode
    exact ⟨f.get file, hdecode, get_apply c file f⟩
  case order =>
    intro source' entries' hparse' htables' hperm
    have hentries' := (document_of_parse hparse').1
    rw [ofToml_eq_ok_iff hparse']
    exact ofEntries_eq_ok hentries htables hfile hentries' htables'
      (said?_eq_of_perm hentries hentries' hperm)
  case others =>
    intro f source' entries' file' c' hparse' htables' hfile' hsaid hflag
    have hentries' := (document_of_parse hparse').1
    rw [ofToml_eq_ok_iff hparse'] at hfile'
    have hsame : some (f.get file') = some (f.get file) := by
      rw [← getD_said? hentries' htables' hfile', ← getD_said? hentries htables hfile, hsaid]
    rw [get_apply, get_apply, forced_congr hflag, Option.some.inj hsame]

/-- A document with an unknown table, which leaves most fields as they are by default. -/
def partialDocument : String := "[runner]\ncommand = \"npx\"\n[x]\n[harness]\nkeep = true\n"

def partialEntries : List (Key × Toml.Item) :=
  [(⟨"runner", ⟨1, 7⟩⟩, .table .header (some ⟨0, 24⟩)
      [(⟨"command", ⟨9, 16⟩⟩, .string "npx" ⟨19, 24⟩)]),
    (⟨"x", ⟨26, 27⟩⟩, .table .header (some ⟨25, 28⟩) []),
    (⟨"harness", ⟨30, 37⟩⟩, .table .header (some ⟨29, 50⟩)
      [(⟨"keep", ⟨39, 43⟩⟩, .boolean true ⟨46, 50⟩)])]

def partialSettings : Settings :=
  ⟨⟨"npx", ["tsconfig-paths/register"], false⟩, .standard, ⟨.sibling, true, true, "> "⟩⟩

def looseLine : CommandLine := ⟨⟨[]⟩, [.loose, .noReload], none⟩

theorem layers_of_ofToml_partial :
    Toml.parse partialDocument = .ok partialEntries ∧ SectionsAreTables partialEntries ∧
      ofToml partialDocument = .ok partialSettings ∧
        (looseLine.apply partialSettings).runner.command = "npx" ∧
          (looseLine.apply partialSettings).harness.prompt = "> " ∧
            (looseLine.apply partialSettings).compilerOptions.strict = false := by
  have hparse : Toml.parse partialDocument = .ok partialEntries := by rfl
  have htables : SectionsAreTables partialEntries := by
    intro p i h
    cases p with
    | compilerOptions => cases h
    | runner | harness =>
      cases h
      exact ⟨_, _, _, rfl⟩
  have hfile : ofToml partialDocument = .ok partialSettings := by rfl
  obtain ⟨-, -, habsent, hpresent, -, -, -⟩ := layers_of_ofToml hparse htables hfile looseLine
  obtain ⟨v, hv, hcommand⟩ := hpresent .command (.string "npx" ⟨19, 24⟩) rfl
  cases hv
  refine ⟨hparse, htables, hfile, hcommand, habsent .prompt rfl, ?_⟩
  refine (habsent .strict rfl).trans ?_
  rw [getD_forced rfl looseLine.gives_loose]
  rfl

end Settings
end TypeScriptRepl
