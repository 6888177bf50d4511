import Mathlib
import TypeScriptRepl.Proofs.Toml.Table
import TypeScriptRepl.Settings.Toml

/-! The fields of settings, each of which goes by its own place in a document. -/
namespace TypeScriptRepl.Settings
open Toml

/-! ### Values -/

def text? : Toml.Item → Option String
  | .string s _ => some s
  | _ => none

def boolean? : Toml.Item → Option Bool
  | .boolean b _ => some b
  | _ => none

def elements? : Toml.Item → Option (List Toml.Item)
  | .array items _ => some items
  | .tables elements => some elements
  | _ => none

def texts? (i : Toml.Item) : Option (List String) := (elements? i).bind (·.mapM text?)

def placementNamed? : String → Option Placement
  | "sibling" => some .sibling
  | "temp" => some .temp
  | _ => none

def isVoid : Toml.Item → Bool
  | .table _ _ entries => entries.isEmpty
  | .array items _ | .tables items => items.isEmpty
  | _ => false

/-- A placement is written as its name, or as a table with a void entry of this name. -/
def placement? : Toml.Item → Option Placement
  | .string s _ => placementNamed? s
  | .table _ _ [(k, v)] => if isVoid v then placementNamed? k.name else none
  | _ => none

/-- The decoder succeeds where there is a value, with this value. -/
def Decodes {V : Type} (decoder : Toml.Item → Decoded V) (value? : Toml.Item → Option V) : Prop :=
  ∀ i v, decoder i = .ok v ↔ value? i = some v

theorem decodes_string : Decodes string text? := by
  intro i v
  cases i <;> simp [string, text?, wrongType]

theorem decodes_boolean : Decodes boolean boolean? := by
  intro i v
  cases i <;> simp [boolean, boolean?, wrongType]

theorem Decodes.mapM {V : Type} {decoder : Toml.Item → Decoded V} {value? : Toml.Item → Option V}
    (h : Decodes decoder value?) (items : List Toml.Item) (vs : List V) :
    items.mapM decoder = .ok vs ↔ items.mapM value? = some vs := by
  induction items generalizing vs with
  | nil => simp [List.mapM_nil, pure, Except.pure]
  | cons i items ih =>
    rw [List.mapM_cons, List.mapM_cons, Except.bind_eq_ok_iff, Option.bind_eq_bind,
      Option.bind_eq_some_iff]
    refine exists_congr fun v => and_congr (h i v) ?_
    rw [Except.bind_eq_ok_iff, Option.bind_eq_bind, Option.bind_eq_some_iff]
    refine exists_congr fun ws => and_congr (ih ws) ?_
    simp [pure, Except.pure]

theorem decodes_strings : Decodes strings texts? := by
  intro i vs
  cases i with
  | array items => exact decodes_string.mapM items vs
  | tables elements => exact decodes_string.mapM elements vs
  | _ => simp [strings, texts?, elements?, wrongType]

theorem variant_eq_ok_iff (name : String) (range : Option Range) (p : Placement) :
    variant name range = .ok p ↔ placementNamed? name = some p := by
  by_cases hsibling : name = "sibling"
  · subst hsibling
    simp [variant, placementNamed?, Placement.text]
  · by_cases htemp : name = "temp"
    · subst htemp
      simp [variant, placementNamed?, Placement.text]
    · simp [variant, placementNamed?, Placement.text, Ne.symm hsibling, Ne.symm htemp]

theorem unit_eq_ok_iff (i : Toml.Item) : unit i = .ok () ↔ isVoid i = true := by
  cases i with
  | table _ _ entries => cases entries <;> simp [unit, isVoid]
  | array items => cases items <;> simp [unit, isVoid]
  | tables elements => cases elements <;> simp [unit, isVoid]
  | _ => simp [unit, isVoid]

theorem decodes_placement : Decodes placement placement? := by
  intro i p
  match i with
  | .string s range => exact variant_eq_ok_iff s range p
  | .table style range [(k, v)] =>
    have hvoid : placement? (.table style range [(k, v)]) = some p ↔
        placementNamed? k.name = some p ∧ isVoid v = true := by
      rw [placement?, Option.ite_none_right_eq_some, and_comm]
    rw [hvoid, placement, Except.bind_eq_ok_iff, ← variant_eq_ok_iff, ← unit_eq_ok_iff]
    simp only [Except.bind_eq_ok_iff]
    constructor
    · rintro ⟨q, hq, ⟨⟩, hunit, hp⟩
      cases hp
      exact ⟨hq, hunit⟩
    · rintro ⟨hq, hunit⟩
      exact ⟨p, hq, (), hunit, rfl⟩
  | .table _ _ [] => simp [placement, placement?]
  | .table _ _ (_ :: _ :: _) => simp [placement, placement?]
  | .integer .. | .float .. | .boolean .. | .datetime .. | .array .. | .tables .. =>
    simp [placement, placement?]

/-! ### Fields and their places -/

inductive Section where
  | runner
  | compilerOptions
  | harness
deriving Repr, DecidableEq

namespace Section

def name : Section → String
  | runner => "runner"
  | compilerOptions => "compiler_options"
  | harness => "harness"

def Value : Section → Type
  | runner => RunnerSettings
  | compilerOptions => CompilerOptions
  | harness => HarnessSettings

def get : (p : Section) → Settings → p.Value
  | runner => Settings.runner
  | compilerOptions => Settings.compilerOptions
  | harness => Settings.harness

def decode : (p : Section) → Toml.Item → Option p.Value
  | runner, i => (runnerSection i).toOption
  | compilerOptions, i => (compilerSection i).toOption
  | harness, i => (harnessSection i).toOption

end Section

inductive Setting where
  | command
  | register
  | transpileOnly
  | strict
  | esModuleInterop
  | allowJs
  | noUnusedLocals
  | noUnusedParameters
  | placement
  | keep
  | reload
  | prompt
deriving Repr, DecidableEq

namespace Setting

def within : Setting → Section
  | command | register | transpileOnly => .runner
  | strict | esModuleInterop | allowJs | noUnusedLocals | noUnusedParameters => .compilerOptions
  | placement | keep | reload | prompt => .harness

def key : Setting → String
  | command => "command"
  | register => "register"
  | transpileOnly => "transpile_only"
  | strict => "strict"
  | esModuleInterop => "esModuleInterop"
  | allowJs => "allowJs"
  | noUnusedLocals => "noUnusedLocals"
  | noUnusedParameters => "noUnusedParameters"
  | placement => "placement"
  | keep => "keep"
  | reload => "reload"
  | prompt => "prompt"

def Value : Setting → Type
  | command | prompt => String
  | register => List String
  | placement => Placement
  | transpileOnly | strict | esModuleInterop | allowJs | noUnusedLocals | noUnusedParameters
  | keep | reload => Bool

def ofSection : (f : Setting) → f.within.Value → f.Value
  | command => RunnerSettings.command
  | register => RunnerSettings.register
  | transpileOnly => RunnerSettings.transpileOnly
  | strict => CompilerOptions.strict
  | esModuleInterop => CompilerOptions.esModuleInterop
  | allowJs => CompilerOptions.allowJs
  | noUnusedLocals => CompilerOptions.noUnusedLocals
  | noUnusedParameters => CompilerOptions.noUnusedParameters
  | placement => HarnessSettings.placement
  | keep => HarnessSettings.keep
  | reload => HarnessSettings.reload
  | prompt => HarnessSettings.prompt

def get (f : Setting) (s : Settings) : f.Value := f.ofSection (f.within.get s)

/-- What a field is without a value in the document. -/
def standard : (f : Setting) → f.Value
  | command => "ts-node"
  | register => ["tsconfig-paths/register"]
  | transpileOnly => false
  | strict => true
  | esModuleInterop => true
  | allowJs => true
  | noUnusedLocals => true
  | noUnusedParameters => true
  | placement => Placement.sibling
  | keep => false
  | reload => true
  | prompt => "> "

def decode : (f : Setting) → Toml.Item → Option f.Value
  | command | prompt => text?
  | register => texts?
  | placement => placement?
  | transpileOnly | strict | esModuleInterop | allowJs | noUnusedLocals | noUnusedParameters
  | keep | reload => boolean?

def item? (f : Setting) (entries : List (Key × Toml.Item)) : Option Toml.Item :=
  (lookup? f.within.name entries).bind fun t => lookup? f.key (Table.entriesOf t)

end Setting

/-! ### Records -/

theorem located_eq_ok_iff {α : Type} {f : Field} {r : Decoded α} {a : α} :
    located f r = .ok a ↔ r = .ok a := by
  cases r <;> simp [located, Except.mapError]

/-- What sets the fields `ι` of a record: a value under the key of a field becomes the value of this
field, and no other field changes. What is under other keys is not looked at. -/
structure IsSetter {α ι : Type} {V : ι → Type} (set : α → String → Toml.Item → Decoded α)
    (key : ι → String) (get : (f : ι) → α → V f)
    (decode : (f : ι) → Toml.Item → Option (V f)) : Prop where
  own {a b : α} {i : Toml.Item} (f : ι) (h : set a (key f) i = .ok b) : decode f i = some (get f b)
  other {a b : α} {name : String} {i : Toml.Item} (f : ι) (hname : name ≠ key f)
    (h : set a name i = .ok b) : get f b = get f a
  accepts {name : String} {i : Toml.Item} (h : ∀ f, key f = name → (decode f i).isSome) (a : α) :
    ∃ b, set a name i = .ok b

namespace IsSetter

variable {α ι : Type} {V : ι → Type} {set : α → String → Toml.Item → Decoded α} {key : ι → String}
  {get : (f : ι) → α → V f} {decode : (f : ι) → Toml.Item → Option (V f)} {names : List String}
  {expected : String} {a b : α} {style : TableStyle} {range : Option Range}
  {entries : List (Key × Toml.Item)}

theorem record_table : record names expected a set (.table style range entries) =
    entries.foldlM (fun a (e : Key × Toml.Item) =>
      located ⟨e.1.name, e.2, e.2.range?.or (some e.1.range)⟩ (set a e.1.name e.2)) a :=
  List.foldlM_map ..

/-- By induction on the entries; `a` has what those before gave. -/
theorem elim_lookup?_of_record (h : IsSetter set key get decode) (hnames : (entryNames entries).Nodup)
    (hrecord : record names expected a set (.table style range entries) = .ok b) (f : ι) :
    (lookup? (key f) entries).elim (some (get f a)) (decode f) = some (get f b) := by
  rw [record_table] at hrecord
  induction entries generalizing a with
  | nil =>
    cases hrecord
    rfl
  | cons e entries ih =>
    rw [List.foldlM_cons, Except.bind_eq_ok_iff] at hrecord
    obtain ⟨next, hnext, hrest⟩ := hrecord
    rw [located_eq_ok_iff] at hnext
    obtain ⟨hfresh, hnames⟩ := List.nodup_cons.1 hnames
    have hlast := ih hnames hrest
    rw [lookup?_cons]
    by_cases hname : e.1.name = key f
    · rw [if_pos hname, Option.elim_some]
      rw [lookup?_eq_none_iff.2 (hname ▸ hfresh), Option.elim_none] at hlast
      rw [h.own f (hname ▸ hnext), hlast]
    · rw [if_neg hname, ← h.other f hname hnext]
      exact hlast

theorem exists_record (h : IsSetter set key get decode) (hnames : (entryNames entries).Nodup)
    (hfits : ∀ f i, lookup? (key f) entries = some i → (decode f i).isSome) (a : α) :
    ∃ b, record names expected a set (.table style range entries) = .ok b := by
  have hset : ∀ e ∈ entries, ∀ a, ∃ b, set a e.1.name e.2 = .ok b := fun e he a =>
    h.accepts (fun f hf => hfits f e.2 (hf ▸ lookup?_of_mem hnames he)) a
  simp only [record_table]
  clear hnames hfits
  induction entries generalizing a with
  | nil => exact ⟨a, rfl⟩
  | cons e entries ih =>
    obtain ⟨next, hnext⟩ := hset e List.mem_cons_self a
    obtain ⟨b, hb⟩ := ih next fun e he => hset e (List.mem_cons_of_mem _ he)
    refine ⟨b, ?_⟩
    rw [List.foldlM_cons, Except.bind_eq_ok_iff]
    exact ⟨next, located_eq_ok_iff.2 hnext, hb⟩

end IsSetter

/-! ### The sections -/

theorem exists_bind_of_isSome {α V : Type} {decoder : Toml.Item → Decoded V}
    {value? : Toml.Item → Option V} (hdecodes : Decodes decoder value?) {put : V → α}
    {i : Toml.Item} (h : (value? i).isSome) : ∃ a, (decoder i >>= fun v => pure (put v)) = .ok a := by
  obtain ⟨v, hv⟩ := Option.isSome_iff_exists.1 h
  exact ⟨put v, Except.bind_eq_ok_iff.2 ⟨v, (hdecodes i v).2 hv, rfl⟩⟩

theorem exists_of_bind {α V : Type} {decoder : Toml.Item → Decoded V} {value? : Toml.Item → Option V}
    (hdecodes : Decodes decoder value?) {put : V → α} {i : Toml.Item} {a : α}
    (h : (decoder i >>= fun v => pure (put v)) = .ok a) : ∃ v, value? i = some v ∧ a = put v := by
  obtain ⟨v, hv, ha⟩ := Except.bind_eq_ok_iff.1 h
  cases ha
  exact ⟨v, (hdecodes i v).1 hv, rfl⟩

abbrev FieldOf (part : Section) : Type := { f : Setting // f.within = part }

theorem isSetter_setRunner : IsSetter (ι := FieldOf .runner) (V := fun f => f.1.Value) setRunner
    (·.1.key) (fun f s => f.1.get { Settings.standard with runner := s }) (·.1.decode) where
  own := by
    rintro s s' i ⟨f, hf⟩ h
    cases f with
    | command =>
      obtain ⟨v, hv, rfl⟩ := exists_of_bind decodes_string h
      exact hv
    | register =>
      obtain ⟨v, hv, rfl⟩ := exists_of_bind decodes_strings h
      exact hv
    | transpileOnly =>
      obtain ⟨v, hv, rfl⟩ := exists_of_bind decodes_boolean h
      exact hv
    | _ => cases hf
  other := by
    rintro s s' name i ⟨f, hf⟩ hname h
    unfold setRunner at h
    split at h
    case h_4 =>
      cases h
      rfl
    all_goals
      obtain ⟨v, -, hs'⟩ := Except.bind_eq_ok_iff.1 h
      cases hs'
      cases f <;> first | rfl | exact absurd rfl hname
  accepts := by
    intro name i h s
    unfold setRunner
    split
    · exact exists_bind_of_isSome decodes_string (h ⟨.command, rfl⟩ rfl)
    · exact exists_bind_of_isSome decodes_strings (h ⟨.register, rfl⟩ rfl)
    · exact exists_bind_of_isSome decodes_boolean (h ⟨.transpileOnly, rfl⟩ rfl)
    · exact ⟨s, rfl⟩

theorem isSetter_setCompilerOption : IsSetter (ι := FieldOf .compilerOptions)
    (V := fun f => f.1.Value) setCompilerOption (·.1.key)
    (fun f o => f.1.get { Settings.standard with compilerOptions := o }) (·.1.decode) where
  own := by
    rintro o o' i ⟨f, hf⟩ h
    cases f with
    | strict | esModuleInterop | allowJs | noUnusedLocals | noUnusedParameters =>
      obtain ⟨v, hv, rfl⟩ := exists_of_bind decodes_boolean h
      exact hv
    | _ => cases hf
  other := by
    rintro o o' name i ⟨f, hf⟩ hname h
    unfold setCompilerOption at h
    split at h
    case h_6 =>
      cases h
      rfl
    all_goals
      obtain ⟨v, -, ho'⟩ := Except.bind_eq_ok_iff.1 h
      cases ho'
      cases f <;> first | rfl | exact absurd rfl hname
  accepts := by
    intro name i h o
    unfold setCompilerOption
    split
    · exact exists_bind_of_isSome decodes_boolean (h ⟨.strict, rfl⟩ rfl)
    · exact exists_bind_of_isSome decodes_boolean (h ⟨.esModuleInterop, rfl⟩ rfl)
    · exact exists_bind_of_isSome decodes_boolean (h ⟨.allowJs, rfl⟩ rfl)
    · exact exists_bind_of_isSome decodes_boolean (h ⟨.noUnusedLocals, rfl⟩ rfl)
    · exact exists_bind_of_isSome decodes_boolean (h ⟨.noUnusedParameters, rfl⟩ rfl)
    · exact ⟨o, rfl⟩

theorem isSetter_setHarness : IsSetter (ι := FieldOf .harness) (V := fun f => f.1.Value) setHarness
    (·.1.key) (fun f s => f.1.get { Settings.standard with harness := s }) (·.1.decode) where
  own := by
    rintro s s' i ⟨f, hf⟩ h
    cases f with
    | placement =>
      obtain ⟨v, hv, rfl⟩ := exists_of_bind decodes_placement h
      exact hv
    | keep | reload =>
      obtain ⟨v, hv, rfl⟩ := exists_of_bind decodes_boolean h
      exact hv
    | prompt =>
      obtain ⟨v, hv, rfl⟩ := exists_of_bind decodes_string h
      exact hv
    | _ => cases hf
  other := by
    rintro s s' name i ⟨f, hf⟩ hname h
    unfold setHarness at h
    split at h
    case h_5 =>
      cases h
      rfl
    all_goals
      obtain ⟨v, -, hs'⟩ := Except.bind_eq_ok_iff.1 h
      cases hs'
      cases f <;> first | rfl | exact absurd rfl hname
  accepts := by
    intro name i h s
    unfold setHarness
    split
    · exact exists_bind_of_isSome decodes_placement (h ⟨.placement, rfl⟩ rfl)
    · exact exists_bind_of_isSome decodes_boolean (h ⟨.keep, rfl⟩ rfl)
    · exact exists_bind_of_isSome decodes_boolean (h ⟨.reload, rfl⟩ rfl)
    · exact exists_bind_of_isSome decodes_string (h ⟨.prompt, rfl⟩ rfl)
    · exact ⟨s, rfl⟩

theorem decodes_toOption {V : Type} (decoder : Toml.Item → Decoded V) :
    Decodes decoder fun i => (decoder i).toOption := by
  intro i v
  dsimp only
  cases decoder i <;> simp [Except.toOption]

theorem isSetter_setSection :
    IsSetter setSection Section.name Section.get Section.decode where
  own := by
    intro s s' i p h
    cases p with
    | runner | compilerOptions | harness =>
      obtain ⟨v, hv, rfl⟩ := exists_of_bind (decodes_toOption _) h
      exact hv
  other := by
    intro s s' name i p hname h
    unfold setSection at h
    split at h
    case h_4 =>
      cases h
      rfl
    all_goals
      obtain ⟨v, -, hs'⟩ := Except.bind_eq_ok_iff.1 h
      cases hs'
      cases p <;> first | rfl | exact absurd rfl hname
  accepts := by
    intro name i h s
    unfold setSection
    split
    · exact exists_bind_of_isSome (decodes_toOption _) (h .runner rfl)
    · exact exists_bind_of_isSome (decodes_toOption _) (h .compilerOptions rfl)
    · exact exists_bind_of_isSome (decodes_toOption _) (h .harness rfl)
    · exact ⟨s, rfl⟩

/-! ### Documents -/

def SectionsAreTables (entries : List (Key × Toml.Item)) : Prop :=
  ∀ (p : Section) (i : Toml.Item), lookup? p.name entries = some i →
    ∃ style range inner, i = .table style range inner

variable {entries : List (Key × Toml.Item)} {s s' : Settings}

theorem get_standard (f : Setting) : f.get .standard = f.standard := by
  cases f <;> rfl

theorem get_congr {f : Setting} (h : f.within.get s = f.within.get s') : f.get s = f.get s' :=
  congrArg f.ofSection h

theorem eq_of_get_eq (h : ∀ f : Setting, f.get s = f.get s') : s = s' := by
  obtain ⟨⟨_, _, _⟩, ⟨_, _, _, _, _⟩, ⟨_, _, _, _⟩⟩ := s
  obtain ⟨⟨_, _, _⟩, ⟨_, _, _, _, _⟩, ⟨_, _, _, _⟩⟩ := s'
  cases h .command
  cases h .register
  cases h .transpileOnly
  cases h .strict
  cases h .esModuleInterop
  cases h .allowJs
  cases h .noUnusedLocals
  cases h .noUnusedParameters
  cases h .placement
  cases h .keep
  cases h .reload
  cases h .prompt
  rfl

theorem elim_lookup?_of_decode {style : TableStyle} {range : Option Range}
    (hnames : (entryNames entries).Nodup) (f : Setting)
    (h : f.within.decode (.table style range entries) = some (f.within.get s)) :
    (lookup? f.key entries).elim (some f.standard) f.decode = some (f.get s) := by
  rw [← get_standard f]
  cases hf : f.within with
  | runner =>
    rw [hf] at h
    have hget := isSetter_setRunner.elim_lookup?_of_record hnames
      ((decodes_toOption runnerSection _ _).2 h) ⟨f, hf⟩
    refine hget.trans (congrArg some (get_congr ?_))
    rw [hf]
    rfl
  | compilerOptions =>
    rw [hf] at h
    have hget := isSetter_setCompilerOption.elim_lookup?_of_record hnames
      ((decodes_toOption compilerSection _ _).2 h) ⟨f, hf⟩
    refine hget.trans (congrArg some (get_congr ?_))
    rw [hf]
    rfl
  | harness =>
    rw [hf] at h
    have hget := isSetter_setHarness.elim_lookup?_of_record hnames
      ((decodes_toOption harnessSection _ _).2 h) ⟨f, hf⟩
    refine hget.trans (congrArg some (get_congr ?_))
    rw [hf]
    rfl

/-- Each field has the value in its place, or the standard one if its place is empty. -/
theorem elim_item?_of_ofEntries (hentries : AreProper entries) (htables : SectionsAreTables entries)
    (h : ofEntries entries = .ok s) (f : Setting) :
    (f.item? entries).elim (some f.standard) f.decode = some (f.get s) := by
  have hsection := isSetter_setSection.elim_lookup?_of_record hentries.1 h f.within
  unfold Setting.item?
  cases ht : lookup? f.within.name entries with
  | none =>
    rw [ht] at hsection
    rw [Option.bind_none, Option.elim_none, ← get_standard]
    exact congrArg some (get_congr (Option.some.inj hsection))
  | some t =>
    rw [ht] at hsection
    obtain ⟨style, range, inner, rfl⟩ := htables _ _ ht
    have hinner := Table.areProper_entriesOf (hentries.isProper_of_lookup? ht)
    exact elim_lookup?_of_decode hinner.1 f hsection

theorem exists_ofEntries (hentries : AreProper entries) (htables : SectionsAreTables entries)
    (hfits : ∀ (f : Setting) i, f.item? entries = some i → (f.decode i).isSome) :
    ∃ s, ofEntries entries = .ok s := by
  refine isSetter_setSection.exists_record hentries.1 (fun p t ht => ?_) _
  obtain ⟨style, range, inner, rfl⟩ := htables p t ht
  have hinner := (Table.areProper_entriesOf (hentries.isProper_of_lookup? ht)).1
  have hfields (f : FieldOf p) (i : Toml.Item) (hi : lookup? f.1.key inner = some i) :
      (f.1.decode i).isSome := by
    refine hfits f.1 i ?_
    rw [Setting.item?, f.2, ht]
    exact hi
  have hsome {V : Type} {r : Decoded V} (h : ∃ v, r = .ok v) : r.toOption.isSome := by
    obtain ⟨v, rfl⟩ := h
    rfl
  cases p with
  | runner => exact hsome (isSetter_setRunner.exists_record hinner hfields _)
  | compilerOptions => exact hsome (isSetter_setCompilerOption.exists_record hinner hfields _)
  | harness => exact hsome (isSetter_setHarness.exists_record hinner hfields _)

end TypeScriptRepl.Settings
