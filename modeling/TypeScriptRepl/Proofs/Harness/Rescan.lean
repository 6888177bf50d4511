import TypeScriptRepl.Proofs.Export.Followed
import TypeScriptRepl.Proofs.Harness.LineGrammar

/-! Extraction from a text to which its statements were added, alone or in a harness. -/
namespace TypeScriptRepl

open Syntax Text

namespace Text

theorem follow_cons (s t : List Char) (ts : List (List Char)) :
    follow s (t :: ts) = follow (s ++ '\n' :: t) ts := by
  simp [follow]

theorem follow_append (s : List Char) (ts us : List (List Char)) :
    follow s (ts ++ us) = follow (follow s ts) us := by
  simp [follow]

/-- The lines of a list of texts that line feeds separate. -/
theorem cons_intercalate (t : List Char) (ts : List (List Char)) :
    '\n' :: ['\n'].intercalate (t :: ts) = (t :: ts).flatMap ('\n' :: ·) := by
  induction ts generalizing t with
  | nil => simp
  | cons u us ih =>
    rw [List.intercalate_cons_cons, List.flatMap_cons, ← ih u]
    simp

end Text

/-- The lines that adding its statements to a text adds: two empty ones if there are none. -/
def Extraction.addedLines (e : Extraction) : List (List Char) :=
  (match e.statements with
    | [] => [[]]
    | ss => ss.map (·.text.toList)) ++ [[]]

theorem Extraction.toList_augment (source : String) (e : Extraction) :
    (augment source e).toList = follow source.toList e.addedLines := by
  have h : '\n' :: ("\n".intercalate e.statementTexts).toList ++ ['\n'] =
      e.addedLines.flatMap ('\n' :: ·) := by
    rw [addedLines, List.flatMap_append, statementTexts, String.toList_intercalate]
    cases e.statements with
    | nil => rfl
    | cons s ss =>
      have hl := cons_intercalate s.text.toList (ss.map (·.text.toList))
      simp only [List.map_cons, List.map_map, Function.comp_def] at hl ⊢
      rw [← hl]
      rfl
  rw [follow, ← h, augment]
  simp

namespace Harness

theorem cons_lines (ls : List String) :
    '\n' :: (Piece.lines ls).text = (ls.map String.toList).flatMap ('\n' :: ·) ++ ['\n'] := by
  simp only [Piece.text]
  induction ls with
  | nil => rfl
  | cons l ls ih => simpa using ih

/-- The lines of a harness between the begin marker and the start of the session. -/
def exportLines (statements : List String) : List (List Char) :=
  [[], comments[0].toList] ++ statements.map String.toList ++ [[], comments[1].toList]

theorem toList_text_synthesize (source : String) (statements : List String) (symbols : SymbolSet) :
    (synthesize source statements symbols .standard).text.toList =
      follow (marked source).toList (exportLines statements) ++ '\n' :: bootstrap symbols := by
  have hb : block statements symbols .standard = '\n' :: beginMarker.toList ++
      (exportLines statements).flatMap ('\n' :: ·) ++ '\n' :: bootstrap symbols := by
    have hp : pieces statements symbols .standard =
        .lines ["", beginMarker, "", comments[0]] :: .lines statements ::
          .lines ["", comments[1]] :: (pieces [] symbols .standard).drop 3 := rfl
    have hl := cons_lines (beginMarker :: "" :: comments[0] :: (statements ++ ["", comments[1]]))
    have he : exportLines statements =
        ("" :: comments[0] :: (statements ++ ["", comments[1]])).map String.toList := by
      simp [exportLines]
    rw [List.map_cons, List.flatMap_cons, ← he] at hl
    calc block statements symbols .standard
        = '\n' :: (Piece.lines (beginMarker :: "" :: comments[0] ::
            (statements ++ ["", comments[1]]))).text ++ bootstrap symbols := by
          simp [block, hp, bootstrap, Piece.text]
      _ = _ := by
          rw [hl]
          simp
  rw [synthesize, String.toList_ofList, hb, marked, String.toList_ofList]
  simp [follow]

end Harness

section

variable (grammar : List Char → Option Node)

/-- The text after a number of rounds, each of which adds the statements that it needs, with its
extraction. -/
def Extraction.rounds (source : String) : Nat → Except ParseError (String × Extraction)
  | 0 => (ofSourceBy grammar source).map (source, ·)
  | n + 1 => do
    let (text, e) ← rounds source n
    let e' ← ofSourceBy grammar (augment text e)
    return (augment text e, e')

/-- Every round after the first one finds the same names, and nothing to add. -/
def Extraction.RoundsAgree (source : String) (e : Extraction) : Prop :=
  ∀ n, ∃ text e', rounds grammar source (n + 1) = .ok (text, e') ∧ e'.statements = [] ∧
    e'.symbols = e.symbols

/-- The harness of a text binds the names of the text and then internal ones, and none of the names
of the text needs a statement again. -/
def Extraction.HarnessAgrees (source : String) (e : Extraction) : Prop :=
  ∃ e', ofSourceBy grammar
      (Harness.synthesize source e.statementTexts e.symbols .standard).text = .ok e' ∧
    (∃ added, e'.symbols.names = e.symbols.names ++ added ∧
      ∀ name ∈ added, isInternal name = true) ∧
    ∀ st ∈ e'.statements, st.name ∉ e.symbols.names

/-- The begin marker changes nothing of what a text says. It does where it ends a comment: a regular
expression that begins with a slash and a star becomes one. -/
def Extraction.MarkerAgrees (source : String) (e : Extraction) : Prop :=
  ∃ e', ofSourceBy grammar (Harness.marked source) = .ok e' ∧ e'.symbols = e.symbols ∧
    e'.statements = e.statements

end

namespace Extraction

open Harness

variable {grammar : List Char → Option Node} {source : String} {p : Program} {e : Extraction}

theorem ofSourceBy_eq_ok :
    ofSourceBy grammar source = .ok e ↔
      ∃ p, Program.parseBy grammar source = .ok p ∧ ofProgram p = e := by
  unfold ofSourceBy
  cases Program.parseBy grammar source with
  | error err => simp [Except.map]
  | ok p => simp [Except.map]

theorem name_mem_bindings_of_mem_statements {st : ExportStatement}
    (h : st ∈ (ofProgram p).statements) : st.name ∈ p.bindings.map (·.name) := by
  have hn := ((mem_statements_ofProgram p).1 h).1
  rwa [symbols_ofProgram_eq_eraseDups, List.mem_eraseDups] at hn

/-- The statements of a text are lines that can be added to it. -/
theorem addedLine_of_mem_statements (hp : Program.parseBy grammar source = .ok p)
    {ss : List ExportStatement} (hs : ss ⊆ (ofProgram p).statements) {t : List Char}
    (ht : t ∈ ss.map (·.text.toList)) : AddedLine grammar t := by
  obtain ⟨st, hst, rfl⟩ := List.mem_map.1 ht
  exact .statement hp (name_mem_bindings_of_mem_statements (hs hst))

/-- The statements of a text are read as clauses, if no name is a modifier. -/
theorem reads_statements (hg : ModuleGrammar grammar)
    (hp : Program.parseBy grammar source = .ok p) :
    ∀ {ss : List ExportStatement}, ss ⊆ (ofProgram p).statements →
      (∀ st ∈ ss, st.name ∉ specifierModifiers) →
      List.Forall₂ (fun t js => AddedLine grammar t ∧ Reads grammar t js)
        (ss.map (·.text.toList)) (ss.map fun st => [st.clause default])
  | [], _, _ => .nil
  | st :: ss, hs, hm => by
    have hn := name_mem_bindings_of_mem_statements (hs List.mem_cons_self)
    obtain ⟨o, ha, hf⟩ := hg.clause hp hn (hm st List.mem_cons_self)
    refine .cons ⟨.statement hp hn, [o], ha, hf.denotes⟩ ?_
    exact reads_statements hg hp (fun _ h => hs (List.mem_cons_of_mem _ h))
      fun st h => hm st (List.mem_cons_of_mem _ h)

theorem flatten_clauses (ss : List ExportStatement) :
    (ss.map fun st => [st.clause default]).flatten = ss.map (·.clause default) := by
  rw [← List.flatMap_def, List.map_eq_flatMap]

/-- Empty lines are read after any text, and say nothing. -/
theorem reads_blanks (hg : ModuleGrammar grammar) {s : List Char} {is : List Item}
    (hs : Reads grammar s is) : ∀ k, Reads grammar (follow s (List.replicate k [])) is
  | 0 => by simpa [follow] using hs
  | k + 1 => by
    rw [List.replicate_succ, follow_cons]
    have h := hg.reads_append hs .blank ⟨[], hg.blank, .nil⟩
    rw [List.append_nil] at h
    exact reads_blanks hg h k

/-- With the statements that it needs, a text is read as itself and one clause for each of them. -/
theorem reads_augment (hg : ModuleGrammar grammar) (hp : Program.parseBy grammar source = .ok p)
    (hm : ∀ st ∈ (ofProgram p).statements, st.name ∉ specifierModifiers) :
    Reads grammar (augment source (ofProgram p)).toList
      (p.items.map Item.unplaced ++ (ofProgram p).statements.map (·.clause default)) := by
  have hs := hg.reads_follow (reads_statements hg hp (List.Subset.refl _) hm) (reads_of_program hp)
  rw [flatten_clauses] at hs
  rw [toList_augment, addedLines]
  cases hss : (ofProgram p).statements with
  | nil =>
    rw [hss] at hs
    simpa [follow, List.replicate_succ] using reads_blanks hg hs 2
  | cons st ss =>
    rw [hss] at hs
    rw [follow_append]
    exact reads_blanks hg hs 1

/-- A statement for the name of a modifier makes a text that is none of the grammar. -/
theorem not_accepts_augment (hg : ModuleGrammar grammar)
    (hp : Program.parseBy grammar source = .ok p) {st : ExportStatement}
    (hst : st ∈ (ofProgram p).statements) (hm : st.name ∈ specifierModifiers) (os : List Outline) :
    ¬Accepts grammar (augment source (ofProgram p)).toList os := by
  -- Up to the first such statement, the lines are read; it takes a name away from what comes next.
  have hf : ((ofProgram p).statements.find? (·.name ∈ specifierModifiers)).isSome := by
    rw [List.find?_isSome]
    exact ⟨st, hst, by simpa using hm⟩
  obtain ⟨bad, hbad⟩ := Option.isSome_iff_exists.1 hf
  obtain ⟨hb, good, rest, hss, hgood⟩ := List.find?_eq_some_iff_append.1 hbad
  have hs : Reads grammar (follow source.toList (good.map (·.text.toList))) _ :=
    hg.reads_follow (reads_statements hg hp (by simp [hss]) (by simpa using hgood))
      (reads_of_program hp)
  obtain ⟨ps, ha, -⟩ := hs
  have ht : (augment source (ofProgram p)).toList =
      follow (follow source.toList (good.map (·.text.toList)) ++ '\n' :: bad.text.toList)
        (rest.map (·.text.toList) ++ [[]]) := by
    rw [toList_augment, addedLines, hss, ← follow_cons, ← follow_append]
    cases good <;> simp
  rw [ht]
  refine hg.modifier ha (by simpa using hb) fun t h => ?_
  rcases List.mem_append.1 h with h | h
  · exact addedLine_of_mem_statements hp (by simp [hss]) h
  · rw [List.mem_singleton.1 h]
    exact .blank

theorem ofSourceBy_of_reads {is : List Item} (h : Reads grammar source.toList is) :
    ∃ q, Program.parseBy grammar source = .ok q ∧
      ofSourceBy grammar source = .ok (ofProgram q) ∧ q.items.map Item.unplaced = is := by
  obtain ⟨q, hq, hi⟩ := h.exists_program
  exact ⟨q, hq, ofSourceBy_eq_ok.2 ⟨q, hq, rfl⟩, hi⟩

/-- A program that goes on with its statements has the same names, and needs no statements. -/
theorem ofProgram_followed_by_statements {q : Program}
    (h : q.items.map Item.unplaced =
      p.items.map Item.unplaced ++ (ofProgram p).statements.map (·.clause default)) :
    (ofProgram q).statements = [] ∧ (ofProgram q).symbols = (ofProgram p).symbols := by
  rw [← List.append_nil (_ ++ _)] at h
  obtain ⟨⟨added, hs, ha⟩, hst⟩ := ofProgram_followed h
  have hn : added = [] := List.eq_nil_iff_forall_not_mem.2 fun name hm => by
    simpa [Item.names] using ha name hm
  rw [hn, List.append_nil] at hs
  refine ⟨List.eq_nil_iff_forall_not_mem.2 fun st h => hst st h ?_, (SymbolSet.eq_iff _ _).2 hs⟩
  rw [← hs]
  exact ((mem_statements_ofProgram q).1 h).1

/-- What every round leaves: a text that is read as the first one and its clauses. -/
theorem rounds_of_statements (hg : ModuleGrammar grammar)
    (hp : Program.parseBy grammar source = .ok p)
    (hm : ∀ st ∈ (ofProgram p).statements, st.name ∉ specifierModifiers) (n : Nat) :
    ∃ text q, rounds grammar source (n + 1) = .ok (text, ofProgram q) ∧
      Program.parseBy grammar text = .ok q ∧ q.items.map Item.unplaced =
        p.items.map Item.unplaced ++ (ofProgram p).statements.map (·.clause default) := by
  induction n with
  | zero =>
    obtain ⟨q, hq, ho, hi⟩ := ofSourceBy_of_reads (reads_augment hg hp hm)
    refine ⟨_, q, ?_, hq, hi⟩
    have h : ofSourceBy grammar source = .ok (ofProgram p) := ofSourceBy_eq_ok.2 ⟨p, hp, rfl⟩
    simp [rounds, h, ho, Except.map, bind, Except.bind, pure, Except.pure]
  | succ n ih =>
    obtain ⟨text, q, hr, hq, hi⟩ := ih
    have hn := (ofProgram_followed_by_statements hi).1
    have ha := reads_augment hg hq (by simp [hn])
    rw [hn, List.map_nil, List.append_nil, hi] at ha
    obtain ⟨q', hq', ho, hi'⟩ := ofSourceBy_of_reads ha
    refine ⟨_, q', ?_, hq', hi'⟩
    rw [rounds, hr]
    simp [ho, bind, Except.bind, pure, Except.pure]

theorem exists_program_of_rounds (hp : Program.parseBy grammar source = .ok p)
    {r : String × Extraction} (h : rounds grammar source 1 = .ok r) :
    ∃ q, Program.parseBy grammar (augment source (ofProgram p)) = .ok q := by
  have ho : ofSourceBy grammar source = .ok (ofProgram p) := ofSourceBy_eq_ok.2 ⟨p, hp, rfl⟩
  cases ha : ofSourceBy grammar (augment source (ofProgram p)) with
  | error err => simp [rounds, ho, ha, Except.map, bind, Except.bind] at h
  | ok e' =>
    obtain ⟨q, hq, -⟩ := ofSourceBy_eq_ok.1 ha
    exact ⟨q, hq⟩

theorem isInternal_of_mem_bootstrapItems {name : String}
    (h : name ∈ Item.names bootstrapItems.flatten) : isInternal name = true := by
  have hb : ∀ n ∈ Item.names bootstrapItems.flatten, isInternal n = true := by decide
  exact hb name h

/-- The lines between the begin marker and the session are read as the clauses that they hold. -/
theorem reads_exportLines (hg : ModuleGrammar grammar)
    (hp : Program.parseBy grammar source = .ok p)
    (hm : ∀ st ∈ (ofProgram p).statements, st.name ∉ specifierModifiers) :
    List.Forall₂ (fun t js => AddedLine grammar t ∧ Reads grammar t js)
      (exportLines (ofProgram p).statementTexts)
      ([[], []] ++ (ofProgram p).statements.map (fun st => [st.clause default]) ++ [[], []]) := by
  have hb : AddedLine grammar [] ∧ Reads grammar [] [] := ⟨.blank, [], hg.blank, .nil⟩
  have hc (c : String) (h : c ∈ comments) :
      AddedLine grammar c.toList ∧ Reads grammar c.toList [] :=
    ⟨.comment h, [], hg.comment c h, .nil⟩
  have hs := reads_statements hg hp (List.Subset.refl _) hm
  have ht : (ofProgram p).statementTexts.map String.toList =
      (ofProgram p).statements.map (·.text.toList) := by
    simp [statementTexts, Function.comp_def]
  rw [exportLines, ht]
  refine List.rel_append (List.rel_append ?_ hs) ?_
  · exact .cons hb (.cons (hc _ (by simp [comments])) .nil)
  · exact .cons hb (.cons (hc _ (by simp [comments])) .nil)

/-- In a harness, a text that the begin marker leaves as it is keeps its names, and none of them
needs a statement again. -/
theorem harnessAgrees_of_statements (hg : ModuleGrammar grammar)
    (hp : Program.parseBy grammar source = .ok p)
    (hm : ∀ st ∈ (ofProgram p).statements, st.name ∉ specifierModifiers) {q : Program}
    (hq : Program.parseBy grammar (marked source) = .ok q)
    (hs : (ofProgram q).symbols = (ofProgram p).symbols)
    (hss : (ofProgram q).statements = (ofProgram p).statements) :
    HarnessAgrees grammar source (ofProgram p) := by
  have hr : Reads grammar
      (synthesize source (ofProgram p).statementTexts (ofProgram p).symbols .standard).text.toList
      (q.items.map Item.unplaced ++ (ofProgram q).statements.map (·.clause default) ++
        bootstrapItems.flatten) := by
    have hl := reads_exportLines hg hp hm
    have hf := hg.reads_follow hl (reads_of_program hq)
    have he : EndsComments grammar (follow (marked source).toList
        (exportLines (ofProgram p).statementTexts)) := by
      refine ⟨source.toList ++ separator source.toList ++ ['\n'], _, ?_,
        ((List.forall₂_and_left _ _).1 hl).1⟩
      simp [marked, follow]
    rw [toList_text_synthesize, hss]
    simpa [flatten_clauses] using hg.reads_session hf he (ofProgram p).symbols
  obtain ⟨r, -, ho, hi⟩ := ofSourceBy_of_reads hr
  obtain ⟨⟨added, hn, ha⟩, hst⟩ := ofProgram_followed hi
  rw [hs] at hn hst
  exact ⟨ofProgram r, ho, ⟨added, hn, fun name h => isInternal_of_mem_bootstrapItems (ha name h)⟩,
    hst⟩

/-- Rounds of adding statements change nothing after the first one, exactly if no name that needs a
statement is a modifier. The same goes for rounds and the harness together, if the begin marker of
the harness changes nothing. -/
theorem rescan_finds_nothing_iff (hg : ModuleGrammar grammar)
    (h : ofSourceBy grammar source = .ok e) :
    ((∀ st ∈ e.statements, st.name ∉ specifierModifiers) ↔ RoundsAgree grammar source e) ∧
    (MarkerAgrees grammar source e →
      ((∀ st ∈ e.statements, st.name ∉ specifierModifiers) ↔
        RoundsAgree grammar source e ∧ HarnessAgrees grammar source e)) := by
  obtain ⟨p, hp, rfl⟩ := ofSourceBy_eq_ok.1 h
  have hr : (∀ st ∈ (ofProgram p).statements, st.name ∉ specifierModifiers) ↔
      RoundsAgree grammar source (ofProgram p) := by
    constructor
    · intro hm n
      obtain ⟨text, q, hr, -, hi⟩ := rounds_of_statements hg hp hm n
      obtain ⟨hss, hs⟩ := ofProgram_followed_by_statements hi
      exact ⟨text, ofProgram q, hr, hss, hs⟩
    · intro hr st hst hm
      obtain ⟨text, e', hr, -, -⟩ := hr 0
      obtain ⟨q, hq⟩ := exists_program_of_rounds hp hr
      obtain ⟨os, ha, -⟩ := reads_of_program hq
      exact not_accepts_augment hg hp hst hm os ha
  refine ⟨hr, fun hk => ⟨fun hm => ⟨hr.1 hm, ?_⟩, fun ha => hr.2 ha.1⟩⟩
  obtain ⟨em, ho, hs, hss⟩ := hk
  obtain ⟨q, hq, rfl⟩ := ofSourceBy_eq_ok.1 ho
  exact harnessAgrees_of_statements hg hp hm hq hs hss

private theorem eq_ok_of_toOption {α β : Type} {r : Except α β} {b : β}
    (h : r.toOption = some b) : r = .ok b := by
  cases r with
  | error a => cases h
  | ok b' => exact congrArg Except.ok (Option.some.inj h)

theorem ofSource_eq_ok (h : (Program.parse source).toOption = some p) :
    ofSource source = .ok (ofProgram p) := by
  rw [ofSource, eq_ok_of_toOption h]
  rfl

def oneConstant : Program := ⟨[.declares ⟨"a", .variable, false, ⟨6, 7, 1, 7⟩⟩], ⟨0, 12, 1, 1⟩⟩

theorem rescan_finds_nothing_oneConstant :
    ofSource "const a = 1;" = .ok (ofProgram oneConstant) ∧
      ofSourceBy LineGrammar.parse "const a = 1;" = .ok (ofProgram oneConstant) ∧
      MarkerAgrees LineGrammar.parse "const a = 1;" (ofProgram oneConstant) ∧
      (ofProgram oneConstant).statements = [.plain "a"] ∧
      RoundsAgree LineGrammar.parse "const a = 1;" (ofProgram oneConstant) ∧
      HarnessAgrees LineGrammar.parse "const a = 1;" (ofProgram oneConstant) := by
  have ho : (Program.parse "const a = 1;").toOption = some oneConstant := by decide +kernel
  have hp : Program.parseBy LineGrammar.parse "const a = 1;" = .ok oneConstant := by decide +kernel
  have hq : Program.parseBy LineGrammar.parse (marked "const a = 1;") =
      .ok ⟨oneConstant.items, ⟨0, 34, 1, 1⟩⟩ := by decide +kernel
  have hs : (ofProgram oneConstant).statements = [.plain "a"] := by decide
  have hm : ∀ st ∈ (ofProgram oneConstant).statements, st.name ∉ specifierModifiers := by
    rw [hs]
    decide
  have he := ofSourceBy_eq_ok.2 ⟨_, hp, rfl⟩
  have hk : MarkerAgrees LineGrammar.parse "const a = 1;" (ofProgram oneConstant) :=
    ⟨_, ofSourceBy_eq_ok.2 ⟨_, hq, rfl⟩, ofProgram_congr rfl⟩
  have ha := ((rescan_finds_nothing_iff LineGrammar.moduleGrammar he).2 hk).1 hm
  exact ⟨ofSource_eq_ok ho, he, hk, hs, ha.1, ha.2⟩

def typeVariable : Program := ⟨[.declares ⟨"type", .variable, false, ⟨4, 8, 1, 5⟩⟩], ⟨0, 8, 1, 1⟩⟩

/-- The statement for `type` is an error: after the brace, the name is read as a modifier. -/
theorem not_roundsAgree_typeVariable :
    ofSource "var type" = .ok (ofProgram typeVariable) ∧
      (ofProgram typeVariable).statements = [.plain "type"] ∧
      ¬RoundsAgree Syntax.tree? "var type" (ofProgram typeVariable) := by
  have ho : (Program.parse "var type").toOption = some typeVariable := by decide +kernel
  have ha : (Program.parse (augment "var type" (ofProgram typeVariable))).toOption = none := by
    decide +kernel
  have hp := eq_ok_of_toOption ho
  rw [← Program.parseBy_tree?] at hp ha
  refine ⟨ofSource_eq_ok ho, by decide, fun hr => ?_⟩
  obtain ⟨text, e', hr, -, -⟩ := hr 0
  obtain ⟨q, hq⟩ := exists_program_of_rounds hp hr
  rw [hq] at ha
  cases ha

end Extraction
end TypeScriptRepl
