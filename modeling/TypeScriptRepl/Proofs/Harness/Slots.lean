import TypeScriptRepl.Harness.Basic
import TypeScriptRepl.Proofs.Export.Table
import TypeScriptRepl.Proofs.Json.Text

/-! What a harness embeds: its block is one template with literals in five slots. -/
namespace TypeScriptRepl.Harness

/-- The places of a block in which a value stands as a literal. -/
inductive Slot where
  | symbols
  | reload
  | historyVariable
  | historyFileName
  | prompt
deriving Repr, DecidableEq

inductive Part where
  | fixed (text : List Char)
  | slot (s : Slot)
deriving Repr, DecidableEq

def Part.text (value : Slot → Json) : Part → List Char
  | fixed t => t
  | slot s => (value s).render

namespace Template

def lines (ls : List String) : List Char := ls.flatMap fun l => l.toList ++ ['\n']

/-- What comes before the imports: the begin marker, and the statements, each on a line. -/
def opening (statements : List String) : List Char :=
  lines ["", beginMarker, "", "// Additional exports for non-exported top-level symbols"] ++
    lines statements ++ lines ["", "// REPL setup code"]

/-- From the imports to the symbols. -/
def symbolTable (reload : Bool) : List Char :=
  lines (Bootstrap.imports reload) ++ lines ["", "// Capture all top-level symbols"] ++
    "const __ts_repl__allSymbols: string[] = ".toList

/-- What follows the literals of the tables, up to the variable of the history. -/
def history : List Char :=
  lines ([""] ++ Bootstrap.helpers ++ [Bootstrap.sessionHead]) ++
    "\tconst historyFile = process.env[".toList

/-- What follows the file of the history, up to the prompt. -/
def server (reload : Bool) : List Char :=
  lines ([");"] ++ (if reload then ["\tlet reloading = false;"] else []) ++ Bootstrap.serverHead) ++
    "\t\tprompt: ".toList

def closing (reload : Bool) : List Char :=
  lines (Bootstrap.serverTail ++ (if reload then Bootstrap.reloadLines else []) ++
    Bootstrap.sessionTail ++ [endMarker])

def session (reload : Bool) : List Part :=
  [.fixed (symbolTable reload), .slot .symbols, .fixed (lines [";"])] ++
  (if reload then
    [.fixed "const __ts_repl__reloadArgv: string[] = ".toList, .slot .reload, .fixed (lines [";"])]
  else []) ++
  [.fixed history, .slot .historyVariable,
    .fixed "] || __ts_repl__path.join(__ts_repl__os.homedir(), ".toList, .slot .historyFileName,
    .fixed (server reload), .slot .prompt, .fixed (closing reload)]

end Template

/-- The template of a block: it depends on the statements, and on whether the session can be run
again, but on no value of a slot. -/
def template (statements : List String) (reload : Bool) : List Part :=
  .fixed (Template.opening statements) :: Template.session reload

def value (symbols : SymbolSet) (o : Options) : Slot → Json
  | .symbols => .ofStrings symbols.names
  | .reload => .ofStrings (o.reload?.getD [])
  | .historyVariable => .string o.historyVariable
  | .historyFileName => .string o.historyFileName
  | .prompt => .string o.prompt

def entries (symbols : SymbolSet) (o : Options) : List (Slot × Json) :=
  (.symbols, .ofStrings symbols.names) ::
    (o.reload?.toList.map fun command => (.reload, .ofStrings command)) ++
    [(.historyVariable, .string o.historyVariable), (.historyFileName, .string o.historyFileName),
      (.prompt, .string o.prompt)]

/-- Reads a text along a template: the fixed parts have to be there as they are, and in each slot the
value of a literal is taken, which ends where the literal ends. -/
def readParts : List Part → List Char → Option (List (Slot × Json))
  | [], cs => if cs.isEmpty then some [] else none
  | .fixed t :: ps, cs => if t.isPrefixOf cs then readParts ps (cs.drop t.length) else none
  | .slot s :: ps, cs => do
    let (j, rest) ← Json.value? (cs.length + 1) cs
    return (s, j) :: (← readParts ps rest)

/-- The values in a block whose statements are known. -/
def readBlock (statements : List String) (cs : List Char) : Option (List (Slot × Json)) :=
  (readParts (template statements true) cs).or (readParts (template statements false) cs)

theorem literalsText_eq_renderAll (vs : List String) (first : Bool) :
    Piece.literalsText vs first = Json.renderAll (vs.map .string) first := by
  induction vs generalizing first with
  | nil => rw [Piece.literalsText, List.map_nil, Json.renderAll]
  | cons v vs ih =>
    rw [Piece.literalsText, List.map_cons, Json.renderAll_cons, ih, Json.render, Json.quote]

theorem text_literals (vs : List String) : (Piece.literals vs).text = (Json.ofStrings vs).render := by
  rw [Piece.text, Json.ofStrings, Json.render, literalsText_eq_renderAll]

theorem text_literal (v : String) : (Piece.literal v).text = (Json.string v).render := by
  rw [Piece.text, Json.render, Json.quote]

/-- A block is its template with the literals of its values. -/
theorem block_eq (statements : List String) (symbols : SymbolSet) (o : Options) :
    block statements symbols o =
      (template statements o.reload?.isSome).flatMap (Part.text (value symbols o)) := by
  have lines_eq (ls : List String) : (Piece.lines ls).text = Template.lines ls := rfl
  have lines_append (as bs : List String) :
      Template.lines (as ++ bs) = Template.lines as ++ Template.lines bs := List.flatMap_append
  unfold block pieces
  cases h : o.reload?
  all_goals
    simp only [-String.reduceToList, template, Template.session, Template.opening,
      Template.symbolTable, Template.history, Template.server, Template.closing, value, Part.text,
      List.flatMap_append, List.flatMap_cons, List.flatMap_nil, text_literals, text_literal, lines_eq,
      lines_append, h, Option.toList_none, Option.toList_some, Option.isSome_none,
      Option.isSome_some, List.append_assoc, List.append_nil, Bool.false_eq_true, if_false, if_true]
    rfl

def slotValues (value : Slot → Json) (ps : List Part) : List (Slot × Json) :=
  ps.filterMap fun
    | .fixed _ => none
    | .slot s => some (s, value s)

theorem readParts_fixed (t : List Char) (ps : List Part) (cs : List Char) :
    readParts (.fixed t :: ps) (t ++ cs) = readParts ps cs := by
  have hp : t.isPrefixOf (t ++ cs) = true := by simp
  rw [readParts, if_pos hp, List.drop_left]

/-- A template with values that read back is read as these values. -/
theorem readParts_text {value : Slot → Json} (h : ∀ s, (value s).ReadsBack) (ps : List Part) :
    readParts ps (ps.flatMap (Part.text value)) = some (slotValues value ps) := by
  induction ps with
  | nil => rfl
  | cons p ps ih =>
    rw [List.flatMap_cons]
    cases p with
    | fixed t =>
      rw [Part.text, readParts_fixed, ih]
      rfl
    | slot s =>
      have hs := (h s).reads (((value s).render ++ ps.flatMap (Part.text value)).length + 1)
        (ps.flatMap (Part.text value)) (by rw [List.length_append]; omega)
      rw [Part.text, readParts, hs]
      simp only [bind, Option.bind, ih]
      rfl

theorem readsBack_value (symbols : SymbolSet) (o : Options) (s : Slot) :
    (value symbols o s).ReadsBack := by
  cases s with
  | symbols => exact Json.readsBack_ofStrings _
  | reload => exact Json.readsBack_ofStrings _
  | historyVariable => exact Json.readsBack_string _
  | historyFileName => exact Json.readsBack_string _
  | prompt => exact Json.readsBack_string _

theorem slotValues_template (statements : List String) (symbols : SymbolSet) (o : Options) :
    slotValues (value symbols o) (template statements o.reload?.isSome) = entries symbols o := by
  unfold slotValues template Template.session entries value
  cases o.reload? <;> rfl

/-- The block of a session that cannot be run again is not read as one of a session that can: there
is no import for it. -/
theorem readParts_reload (statements : List String) (value : Slot → Json) :
    readParts (template statements true)
      ((template statements false).flatMap (Part.text value)) = none := by
  have ht : (template statements false).flatMap (Part.text value) =
      Template.opening statements ++ (Template.symbolTable false ++
        ((Template.session false).drop 1).flatMap (Part.text value)) := rfl
  have hi (reload : Bool) : Template.symbolTable reload =
      Template.lines (Bootstrap.imports false) ++ ((if reload then 'i' else '\n') ::
        (Template.symbolTable reload).drop ((Template.lines (Bootstrap.imports false)).length + 1)) := by
    cases reload <;> decide +kernel
  have hp : (Template.symbolTable true).isPrefixOf (Template.symbolTable false ++
      ((Template.session false).drop 1).flatMap (Part.text value)) = false := by
    rw [hi true, hi false, Bool.eq_false_iff, ne_eq, List.isPrefixOf_iff_prefix, List.append_assoc,
      List.prefix_append_right_inj]
    intro h
    exact absurd (List.cons_prefix_cons.1 h).1 (by decide)
  rw [ht, template, readParts_fixed, Template.session]
  simp only [List.cons_append, readParts, hp]
  rfl

theorem readBlock_block (statements : List String) (symbols : SymbolSet) (o : Options) :
    readBlock statements (block statements symbols o) = some (entries symbols o) := by
  have hr := readParts_text (readsBack_value symbols o) (template statements o.reload?.isSome)
  rw [slotValues_template] at hr
  rw [block_eq, readBlock]
  cases h : o.reload?.isSome with
  | true =>
    rw [h] at hr
    rw [hr, Option.some_or]
  | false =>
    rw [h] at hr
    rw [readParts_reload, Option.none_or, hr]

theorem entries_eq_iff {symbols symbols' : SymbolSet} {o o' : Options} :
    entries symbols' o' = entries symbols o ↔
      symbols' = symbols ∧ o'.reload? = o.reload? ∧ o'.historyVariable = o.historyVariable ∧
        o'.historyFileName = o.historyFileName ∧ o'.prompt = o.prompt := by
  have names_eq {vs ws : List String} : Json.ofStrings vs = Json.ofStrings ws ↔ vs = ws :=
    ⟨Json.ofStrings_injective, congrArg _⟩
  rw [SymbolSet.eq_iff]
  -- whether there is a command decides how many entries there are, and what the second one is
  cases hr : o.reload? <;> cases hr' : o'.reload?
  all_goals
    simp only [entries, hr, hr', Option.toList_none, Option.toList_some, List.map_cons, List.map_nil,
      List.cons_append, List.nil_append, List.cons.injEq, Prod.mk.injEq, Json.string.injEq, names_eq,
      Option.some.injEq, reduceCtorEq, true_and, false_and, and_false, and_true]

theorem value_of_mem_entries {symbols : SymbolSet} {o : Options} {e : Slot × Json}
    (h : e ∈ entries symbols o) : (∃ v, e.2 = .string v) ∨ ∃ vs, e.2 = .ofStrings vs := by
  simp only [entries, List.cons_append, List.mem_cons, List.mem_append, List.mem_map,
    List.not_mem_nil, or_false] at h
  rcases h with rfl | ⟨command, -, rfl⟩ | rfl | rfl | rfl
  · exact Or.inr ⟨_, rfl⟩
  · exact Or.inr ⟨_, rfl⟩
  · exact Or.inl ⟨_, rfl⟩
  · exact Or.inl ⟨_, rfl⟩
  · exact Or.inl ⟨_, rfl⟩

theorem toList_synthesize (source : String) (statements : List String) (symbols : SymbolSet)
    (o : Options) : (synthesize source statements symbols o).text.toList =
      source.toList ++ separator source.toList ++ block statements symbols o := by
  rw [synthesize, String.toList_ofList]

theorem text_synthesize_eq_iff {source : String} {statements : List String}
    {symbols symbols' : SymbolSet} {o o' : Options} :
    (synthesize source statements symbols' o').text = (synthesize source statements symbols o).text ↔
      entries symbols' o' = entries symbols o := by
  rw [← String.toList_inj, toList_synthesize, toList_synthesize, List.append_cancel_left_eq]
  constructor
  · intro h
    have hr := congrArg (readBlock statements) h
    rw [readBlock_block, readBlock_block] at hr
    exact Option.some.inj hr
  · intro h
    obtain ⟨rfl, hr, hv, hf, hp⟩ := entries_eq_iff.1 h
    unfold block pieces
    rw [hr, hv, hf, hp]

theorem Options.isSome_reload?_iff {o : Options} :
    o.reload?.isSome ↔ ∃ command, o.reloadCommand = some command ∧ command ≠ [] := by
  rw [reload?]
  cases o.reloadCommand with
  | none => simp
  | some command => cases command <;> simp [Option.filter]

/-- The strings that stand as literals in the text of a value. -/
def literals : Json → List String
  | .string s => [s]
  | .array xs => xs.filterMap Json.string?
  | _ => []

/-- A harness is its source, and a block that is a template with a literal in each slot. A literal
stays on one line, only its own last quote ends it, and it stands for the value of its slot; so two
harnesses of a source with the same statements are one text only if they have the same values. -/
theorem synthesize_embeds (source : String) (statements : List String) (symbols : SymbolSet)
    (o : Options) :
    let text := (template statements o.reload?.isSome).flatMap (Part.text (value symbols o))
    (synthesize source statements symbols o).text.toList =
        source.toList ++ separator source.toList ++ text ∧
      readBlock statements text = some (entries symbols o) ∧
      (∀ e ∈ entries symbols o, (∀ c ∈ e.2.render, 32 ≤ c.toNat) ∧
        Json.parse? e.2.render = some e.2 ∧
        ∀ v ∈ literals e.2, ∀ rest, Json.Quoted.literal? (Json.quote v ++ rest) =
          some (Json.quote v, rest)) ∧
      (o.reload?.isSome ↔ ∃ command, o.reloadCommand = some command ∧ command ≠ []) ∧
      ∀ symbols' o', (synthesize source statements symbols' o').text =
          (synthesize source statements symbols o).text ↔
        symbols' = symbols ∧ o'.reload? = o.reload? ∧ o'.historyVariable = o.historyVariable ∧
          o'.historyFileName = o.historyFileName ∧ o'.prompt = o.prompt := by
  intro text
  have ht : text = block statements symbols o := (block_eq statements symbols o).symm
  refine ⟨?_, ?_, ?_, Options.isSome_reload?_iff, ?_⟩
  · rw [ht, toList_synthesize]
  · rw [ht, readBlock_block]
  · intro e he
    refine ⟨?_, ?_, fun v _ rest => Json.Quoted.literal?_encode _ _⟩
    · intro c hc
      rcases value_of_mem_entries he with ⟨v, hv⟩ | ⟨vs, hv⟩
      · rw [hv, Json.render] at hc
        exact Json.Quoted.le_toNat_of_mem_encode hc
      · rw [hv] at hc
        exact Json.le_toNat_of_mem_render_ofStrings hc
    · rcases value_of_mem_entries he with ⟨v, hv⟩ | ⟨vs, hv⟩
      · rw [hv]
        exact (Json.readsBack_string v).parse?
      · rw [hv]
        exact (Json.readsBack_ofStrings vs).parse?
  · intro symbols' o'
    rw [text_synthesize_eq_iff, entries_eq_iff]

end TypeScriptRepl.Harness
