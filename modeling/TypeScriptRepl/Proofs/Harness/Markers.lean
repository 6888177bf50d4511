import TypeScriptRepl.Proofs.Harness.Slots
import TypeScriptRepl.Proofs.Text.Lines

/-! The markers are the frame of a block, and arise nowhere else in it unless what the harness is made of
has one. -/
namespace TypeScriptRepl.Harness
open Text

def MarkerFree (s : String) : Prop := ∀ m ∈ [beginMarker, endMarker], ¬m.toList <:+: s.toList

instance (s : String) : Decidable (MarkerFree s) :=
  inferInstanceAs (Decidable (∀ m ∈ [beginMarker, endMarker], ¬m.toList <:+: s.toList))

def inputs (statements : List String) (symbols : SymbolSet) (o : Options) : List String :=
  statements ++ symbols.names ++ [o.prompt, o.historyVariable, o.historyFileName] ++
    o.reloadCommand.getD []

/-- The texts of a piece that nothing parts. -/
def Piece.words : Piece → List String
  | lines ls => ls
  | fixed s => [s]
  | literal v => [v]
  | literals vs => vs

def Piece.IsLiteral : Piece → Prop
  | literal _ | literals _ => True
  | lines _ | fixed _ => False

/-- A literal follows what is only a part of a line. -/
def Piece.Joins (p q : Piece) : Prop :=
  match p with
  | fixed _ => q.IsLiteral
  | _ => True

/-- The pieces between the markers, from the line after the begin marker on. -/
def interior (statements : List String) (symbols : SymbolSet) (o : Options) : List Piece :=
  .lines ["", "// Additional exports for non-exported top-level symbols"] ::
    (pieces statements symbols o).tail.dropLast

/-- A text whose last line is ended, and an empty line. -/
def lead (source : List Char) : List Char := source ++ separator source ++ ['\n']

/-- What stands between the markers. -/
def inner (statements : List String) (symbols : SymbolSet) (o : Options) : List Char :=
  (interior statements symbols o).flatMap Piece.text

theorem block_eq_inner (statements : List String) (symbols : SymbolSet) (o : Options) :
    block statements symbols o = '\n' :: (beginMarker.toList ++
      '\n' :: (inner statements symbols o ++ endMarker.toList ++ ['\n'])) := by
  have hpieces : pieces statements symbols o =
      .lines ["", beginMarker, "", "// Additional exports for non-exported top-level symbols"] ::
        ((pieces statements symbols o).tail.dropLast ++ [.lines [endMarker]]) := by
    unfold pieces
    cases o.reload? <;> rfl
  rw [block, hpieces, inner, interior]
  simp [Piece.text]

theorem isChain_interior (statements : List String) (symbols : SymbolSet) (o : Options) :
    (interior statements symbols o).IsChain Piece.Joins := by
  unfold interior pieces
  cases o.reload? <;> simp [Piece.Joins, Piece.IsLiteral]

theorem infix_inner_of_mem {statements : List String} {symbols : SymbolSet} {o : Options} {p : Piece}
    (hp : p ∈ interior statements symbols o) : p.text <:+: inner statements symbols o := by
  obtain ⟨ps, qs, h⟩ := List.append_of_mem hp
  rw [inner, h, List.flatMap_append, List.flatMap_cons]
  exact List.infix_append' ..

/-- A piece is the same in every interior, or its words are inputs. -/
theorem forall₂_interior (statements : List String) (symbols : SymbolSet) (o : Options) :
    List.Forall₂ (fun p q => p = q ∨ p.words ⊆ inputs statements symbols o)
      (interior statements symbols o)
      (interior [] .empty ⟨"", "", "", o.reload?.map fun _ => [""]⟩) := by
  have hstatements : statements ⊆ inputs statements symbols o := by
    intro s hs
    simp [inputs, hs]
  have hnames : symbols.names ⊆ inputs statements symbols o := by
    intro s hs
    simp [inputs, hs]
  have hvariable : o.historyVariable ∈ inputs statements symbols o := by simp [inputs]
  have hfile : o.historyFileName ∈ inputs statements symbols o := by simp [inputs]
  have hprompt : o.prompt ∈ inputs statements symbols o := by simp [inputs]
  unfold interior pieces
  cases hr : o.reload? with
  | none => simp [Options.reload?, Piece.words, hstatements, hnames, hvariable, hfile, hprompt]
  | some command =>
    have hcommand : command ⊆ inputs statements symbols o := by
      intro s hs
      simp [inputs, (Option.filter_eq_some_iff.1 hr).1, hs]
    simp [Options.reload?, Option.filter, Piece.words, hstatements, hnames, hvariable, hfile, hprompt,
      hcommand]

/-- A literal of a string is a list of characters as it stands, with nothing to decode. -/
theorem not_infix_toList {m cs : List Char} {s : String} (hs : s = String.ofList cs)
    (h : ¬m <:+: cs) : ¬m <:+: s.toList := by
  rw [hs, String.toList_ofList]
  exact h

set_option maxRecDepth 2000 in
/-- No line of a session begins a comment of the markers' kind. -/
theorem not_infix_bootstrap :
    ∀ ls ∈ [Bootstrap.imports true, Bootstrap.helpers, Bootstrap.serverHead, Bootstrap.serverTail,
      Bootstrap.reloadLines, Bootstrap.sessionTail], ∀ l ∈ ls, ¬['/', '*'] <:+: l.toList := by
  intro ls hls
  fin_cases hls
  all_goals
    simp only [List.forall_mem_cons, Bootstrap.imports, Bootstrap.helpers, Bootstrap.serverHead,
      Bootstrap.serverTail, Bootstrap.reloadLines, Bootstrap.sessionTail, List.cons_append,
      List.nil_append, if_true]
    repeat' apply And.intro
  all_goals first | exact not_infix_toList rfl (by decide +kernel) | exact List.forall_mem_nil _

theorem not_infix_sessionHead : ¬['/', '*'] <:+: Bootstrap.sessionHead.toList := by
  decide +kernel

/-- Nothing that the interiors have in common does. -/
theorem not_infix_of_mem_interior {reload : Option (List String)} (hr : reload ∈ [none, some [""]]) :
    ∀ p ∈ interior [] .empty ⟨"", "", "", reload⟩, ∀ w ∈ p.words, ¬['/', '*'] <:+: w.toList := by
  have hb := not_infix_bootstrap
  have hs := not_infix_sessionHead
  have himports (reload : Bool) : ∀ l ∈ Bootstrap.imports reload, ¬['/', '*'] <:+: l.toList := by
    intro l hl
    apply hb (Bootstrap.imports true) List.mem_cons_self l
    cases reload
    · exact List.mem_append_left _ hl
    · exact hl
  simp only [List.forall_mem_cons] at hb
  obtain ⟨-, hhelpers, hhead, htail, hreload, hend, -⟩ := hb
  simp only [List.mem_cons, List.not_mem_nil, or_false] at hr
  unfold interior pieces
  rcases hr with rfl | rfl
  all_goals
    simp only [Options.reload?, Option.filter, List.isEmpty_cons, Bool.not_false, Option.isSome_none,
      Option.isSome_some, SymbolSet.names_empty, Option.toList_none, Option.toList_some,
      List.flatMap_cons, List.flatMap_nil, List.append_nil, Bool.false_eq_true, if_true, if_false,
      List.cons_append, List.nil_append, List.tail_cons, List.dropLast_cons_cons,
      List.dropLast_singleton, List.forall_mem_cons, Piece.words]
    repeat' apply And.intro
  all_goals first
    | exact not_infix_toList rfl (by decide +kernel)
    | exact List.forall_mem_nil _
    | assumption
    | exact himports _

/-- A text that begins a comment, and has nothing in it that parts lines or literals. -/
structure IsMark (m : List Char) : Prop where
  comment : ∃ word, m = '/' :: '*' :: word
  plain : ∀ c ∈ ['\n', '"', '\\', '[', ']', ','], c ∉ m

theorem isMark_beginMarker : IsMark beginMarker.toList where
  comment := ⟨_, rfl⟩
  plain := by simp [beginMarker]

theorem isMark_endMarker : IsMark endMarker.toList where
  comment := ⟨_, rfl⟩
  plain := by simp [endMarker]

namespace IsMark

variable {m : List Char} (hm : IsMark m)
include hm

theorem ne_nil : m ≠ [] := by
  obtain ⟨word, rfl⟩ := hm.comment
  exact List.cons_ne_nil _ _

theorem newline_notMem : '\n' ∉ m := hm.plain '\n' (by decide)

theorem infix_lines_append_iff {ls : List String} {t : List Char} :
    m <:+: (Piece.lines ls).text ++ t ↔ (∃ l ∈ ls, m <:+: l.toList) ∨ m <:+: t := by
  induction ls with
  | nil => simp [Piece.text]
  | cons l ls ih =>
    have hcons : (Piece.lines (l :: ls)).text ++ t =
        l.toList ++ '\n' :: ((Piece.lines ls).text ++ t) := by simp [Piece.text]
    rw [hcons, infix_append_cons_iff hm.newline_notMem hm.ne_nil, ih, List.exists_mem_cons_iff,
      or_assoc]

/-- A literal encloses what it is written for: the escapes bring no mark into it. -/
theorem encloses_encode {cs : List Char} (h : ¬m <:+: cs) : Encloses m (Json.Quoted.encode cs) := by
  have hquote : '"' ∉ m := hm.plain '"' (by decide)
  have hbackslash : '\\' ∉ m := hm.plain '\\' (by decide)
  refine ⟨'"', cs.flatMap Json.Quoted.escape, '"', rfl, hquote, hquote, ?_⟩
  obtain ⟨word, rfl⟩ := hm.comment
  intro hword
  exact h (Json.Quoted.infix_of_infix_flatMap_escape
    (fun hmem => hbackslash (List.mem_cons_of_mem _ hmem)) hword)

theorem not_infix_literalsText {vs : List String} (h : ∀ v ∈ vs, ¬m <:+: v.toList) (first : Bool) :
    ¬m <:+: Piece.literalsText vs first := by
  induction vs generalizing first with
  | nil =>
    rw [Piece.literalsText, List.infix_nil]
    exact hm.ne_nil
  | cons v vs ih =>
    have hcomma : ',' ∉ m := hm.plain ',' (by decide)
    have hfirst : ¬m <:+: if first then [] else [','] := by
      cases first
      · intro hword
        rcases (infix_append_cons_iff (x := []) hcomma hm.ne_nil).1 hword with h | h <;>
          exact hm.ne_nil (List.infix_nil.1 h)
      · exact fun hword => hm.ne_nil (List.infix_nil.1 hword)
    have hv := hm.encloses_encode (h v List.mem_cons_self)
    rw [Piece.literalsText, List.append_assoc, hv.infix_append_iff hm.ne_nil, not_or]
    exact ⟨hfirst, ih (fun w hw => h w (List.mem_cons_of_mem v hw)) false⟩

theorem encloses_text {p : Piece} (hp : p.IsLiteral) (h : ∀ w ∈ p.words, ¬m <:+: w.toList) :
    Encloses m p.text := by
  cases p with
  | lines ls => cases hp
  | fixed s => cases hp
  | literal v => exact hm.encloses_encode (h v List.mem_cons_self)
  | literals vs =>
    exact ⟨'[', _, ']', rfl, hm.plain '[' (by decide), hm.plain ']' (by decide),
      hm.not_infix_literalsText h true⟩

/-- Where the pieces of a text meet, no mark arises. -/
theorem not_infix_flatMap_text {ps : List Piece} (hps : ps.IsChain Piece.Joins)
    (h : ∀ p ∈ ps, ∀ w ∈ p.words, ¬m <:+: w.toList) : ¬m <:+: ps.flatMap Piece.text := by
  induction ps with
  | nil =>
    rw [List.flatMap_nil, List.infix_nil]
    exact hm.ne_nil
  | cons p ps ih =>
    have hp := h p List.mem_cons_self
    have hrest := ih hps.tail fun q hq => h q (List.mem_cons_of_mem p hq)
    have hliteral {q : Piece} (hq : q.IsLiteral) (hw : ∀ w ∈ q.words, ¬m <:+: w.toList)
        {before after : List Char} (hbefore : ¬m <:+: before) (hafter : ¬m <:+: after) :
        ¬m <:+: before ++ (q.text ++ after) := by
      rw [(hm.encloses_text hq hw).infix_append_iff hm.ne_nil, not_or]
      exact ⟨hbefore, hafter⟩
    have hnil : ¬m <:+: [] := fun hword => hm.ne_nil (List.infix_nil.1 hword)
    rw [List.flatMap_cons]
    cases p with
    | lines ls =>
      rw [hm.infix_lines_append_iff, not_or]
      refine ⟨?_, hrest⟩
      rintro ⟨l, hl, hword⟩
      exact hp l hl hword
    | literal v => exact hliteral (q := .literal v) trivial hp hnil hrest
    | literals vs => exact hliteral (q := .literals vs) trivial hp hnil hrest
    | fixed s =>
      have hs : ¬m <:+: s.toList := hp s List.mem_cons_self
      cases ps with
      | nil =>
        rw [List.flatMap_nil, List.append_nil]
        exact hs
      | cons q ps =>
        have hq : q.IsLiteral := (List.isChain_cons_cons.1 hps).1
        rw [List.flatMap_cons] at hrest ⊢
        exact hliteral hq (h q (by simp)) hs fun hword =>
          hrest (hword.trans (List.suffix_append q.text _).isInfix)

theorem not_infix_parted {x y : List Char} (hx : ¬m <:+: x) (hy : ¬m <:+: y) :
    ¬m <:+: x ++ '\n' :: y := by
  rw [infix_append_cons_iff hm.newline_notMem hm.ne_nil, not_or]
  exact ⟨hx, hy⟩

theorem not_infix_append_separator {cs : List Char} (h : ¬m <:+: cs) :
    ¬m <:+: cs ++ separator cs := by
  unfold separator
  split
  · rwa [List.append_nil]
  · exact hm.not_infix_parted h fun hword => hm.ne_nil (List.infix_nil.1 hword)

theorem not_infix_inner {statements : List String} {symbols : SymbolSet} {o : Options}
    (h : ∀ w ∈ inputs statements symbols o, ¬m <:+: w.toList) :
    ¬m <:+: inner statements symbols o := by
  apply hm.not_infix_flatMap_text (isChain_interior statements symbols o)
  intro p hp w hw
  obtain ⟨q, hq, hpq⟩ : ∃ q ∈ interior [] .empty ⟨"", "", "", o.reload?.map fun _ => [""]⟩,
      p = q ∨ p.words ⊆ inputs statements symbols o := by
    obtain ⟨i, hi, rfl⟩ := List.mem_iff_getElem.1 hp
    have hf := forall₂_interior statements symbols o
    have hi' := hf.length_eq ▸ hi
    exact ⟨_, List.getElem_mem hi', List.forall₂_iff_get.1 hf |>.2 i hi hi'⟩
  rcases hpq with rfl | hsub
  · obtain ⟨word, rfl⟩ := hm.comment
    have hreload : o.reload?.map (fun _ => [""]) ∈ [none, some [""]] := by cases o.reload? <;> simp
    have hopens : ['/', '*'] <+: '/' :: '*' :: word := ⟨word, rfl⟩
    intro hword
    exact not_infix_of_mem_interior hreload p hq w hw (hopens.isInfix.trans hword)
  · exact h w (hsub hw)

end IsMark

theorem exists_text_lines_eq (ls : List String) (h : ls ≠ []) :
    ∃ t, (Piece.lines ls).text = t ++ ['\n'] := by
  obtain ⟨ls, l, rfl⟩ := (List.eq_nil_or_concat ls).resolve_left h
  exact ⟨(Piece.lines ls).text ++ l.toList, by simp [Piece.text]⟩

theorem exists_inner_eq (statements : List String) (symbols : SymbolSet) (o : Options) :
    ∃ t, inner statements symbols o = t ++ ['\n'] := by
  obtain ⟨ps, hps⟩ : ∃ ps, interior statements symbols o = ps ++ [.lines Bootstrap.sessionTail] := by
    refine ⟨(interior statements symbols o).dropLast, ?_⟩
    unfold interior pieces
    cases o.reload? <;> rfl
  obtain ⟨t, ht⟩ := exists_text_lines_eq Bootstrap.sessionTail (List.cons_ne_nil _ _)
  rw [inner, hps, List.flatMap_append, List.flatMap_singleton, ht, ← List.append_assoc]
  exact ⟨_, rfl⟩

theorem line_infix_inner {statements : List String} {s : String} (hs : s ∈ statements)
    (symbols : SymbolSet) (o : Options) :
    '\n' :: s.toList ++ ['\n'] <:+: inner statements symbols o := by
  obtain ⟨as, bs, rfl⟩ := List.append_of_mem hs
  obtain ⟨ps, hps⟩ : ∃ ps, interior (as ++ s :: bs) symbols o =
      .lines ["", "// Additional exports for non-exported top-level symbols"] ::
        .lines (as ++ s :: bs) :: ps := ⟨_, rfl⟩
  obtain ⟨t, ht⟩ := exists_text_lines_eq
    (["", "// Additional exports for non-exported top-level symbols"] ++ as) (by simp)
  have hlines : (Piece.lines ["", "// Additional exports for non-exported top-level symbols"]).text ++
      (Piece.lines as).text = t ++ ['\n'] := by
    rw [← ht]
    simp only [Piece.text, List.flatMap_append]
  refine ⟨t, (Piece.lines bs).text ++ ps.flatMap Piece.text, ?_⟩
  rw [inner, hps, List.flatMap_cons, List.flatMap_cons]
  have happend : (Piece.lines (as ++ s :: bs)).text =
      (Piece.lines as).text ++ (s.toList ++ '\n' :: (Piece.lines bs).text) := by simp [Piece.text]
  calc t ++ ('\n' :: s.toList ++ ['\n']) ++ ((Piece.lines bs).text ++ ps.flatMap Piece.text)
      = t ++ ['\n'] ++ (s.toList ++ '\n' :: (Piece.lines bs).text) ++ ps.flatMap Piece.text := by simp
    _ = _ := by
      rw [← hlines, happend]
      simp only [-String.reduceToList, List.append_assoc]

theorem render_infix_inner {statements : List String} {symbols : SymbolSet} {o : Options}
    {e : Slot × Json} (he : e ∈ entries symbols o) :
    e.2.render <:+: inner statements symbols o := by
  obtain ⟨p, hp, hpe⟩ : ∃ p ∈ interior statements symbols o, p.text = e.2.render := by
    unfold entries at he
    unfold interior pieces
    cases hr : o.reload? <;>
      simp only [hr, Option.toList_none, Option.toList_some, List.map_nil, List.map_cons,
        List.cons_append, List.nil_append, List.mem_cons, List.not_mem_nil, or_false] at he
    · rcases he with rfl | rfl | rfl | rfl
      · exact ⟨.literals symbols.names, by simp, text_literals _⟩
      · exact ⟨.literal o.historyVariable, by simp, text_literal _⟩
      · exact ⟨.literal o.historyFileName, by simp, text_literal _⟩
      · exact ⟨.literal o.prompt, by simp, text_literal _⟩
    · rename_i command
      rcases he with rfl | rfl | rfl | rfl | rfl
      · exact ⟨.literals symbols.names, by simp, text_literals _⟩
      · exact ⟨.literals command, by simp, text_literals _⟩
      · exact ⟨.literal o.historyVariable, by simp, text_literal _⟩
      · exact ⟨.literal o.historyFileName, by simp, text_literal _⟩
      · exact ⟨.literal o.prompt, by simp, text_literal _⟩
  rw [← hpe]
  exact infix_inner_of_mem hp

/-- The number of the last row of a text. A line feed at the end belongs to the row that it ends. -/
def lastRow (cs : List Char) : Nat := cs.dropLast.count '\n'

theorem count_append_separator (cs : List Char) :
    (cs ++ separator cs).count '\n' = lastRow cs + 1 := by
  rcases List.eq_nil_or_concat cs with rfl | ⟨cs, c, rfl⟩
  · rfl
  · rw [List.concat_eq_append, lastRow, List.dropLast_concat, separator, List.getLast?_concat]
    by_cases hc : c = '\n' <;> simp [hc]

theorem toList_synthesize_eq (source : String) (statements : List String) (symbols : SymbolSet)
    (o : Options) : (synthesize source statements symbols o).text.toList =
      lead source.toList ++ beginMarker.toList ++ '\n' :: inner statements symbols o ++
        endMarker.toList ++ ['\n'] := by
  rw [toList_synthesize, block_eq_inner, lead]
  simp only [-String.reduceToList, List.append_assoc, List.cons_append, List.nil_append]

/-- Line feeds part a harness: what is before the block, the markers, and what is between them. -/
theorem exists_toList_synthesize_eq (source : String) (statements : List String)
    (symbols : SymbolSet) (o : Options) :
    ∃ t, inner statements symbols o = t ++ ['\n'] ∧
      (synthesize source statements symbols o).text.toList =
        source.toList ++ separator source.toList ++ '\n' :: (beginMarker.toList ++
          '\n' :: (t ++ '\n' :: (endMarker.toList ++ ['\n']))) := by
  obtain ⟨t, ht⟩ := exists_inner_eq statements symbols o
  refine ⟨t, ht, ?_⟩
  rw [toList_synthesize_eq, ht, lead]
  simp only [-String.reduceToList, List.append_assoc, List.cons_append, List.nil_append]

section Places

variable {source : String} {statements : List String} {symbols : SymbolSet} {o : Options}

theorem occursAt_beginMarker_iff (hsource : ¬beginMarker.toList <:+: source.toList)
    (hinner : ¬beginMarker.toList <:+: inner statements symbols o) {i : Nat} :
    OccursAt beginMarker.toList (synthesize source statements symbols o).text.toList i ↔
      i = (lead source.toList).length := by
  have hm := isMark_beginMarker
  obtain ⟨t, ht, htext⟩ := exists_toList_synthesize_eq source statements symbols o
  have hlast : ¬beginMarker.toList <:+: endMarker.toList ++ ['\n'] := by decide
  have hafter : ¬beginMarker.toList <:+: t ++ '\n' :: (endMarker.toList ++ ['\n']) := by
    apply hm.not_infix_parted _ hlast
    intro h
    exact hinner (ht ▸ h.trans (List.prefix_append t ['\n']).isInfix)
  rw [htext, occursAt_parted_iff hm.newline_notMem hm.ne_nil (hm.not_infix_append_separator hsource)
    hafter, lead]
  simp only [List.length_append, List.length_singleton]

theorem occursAt_endMarker_iff (hsource : ¬endMarker.toList <:+: source.toList)
    (hinner : ¬endMarker.toList <:+: inner statements symbols o) {i : Nat} :
    OccursAt endMarker.toList (synthesize source statements symbols o).text.toList i ↔
      i = (lead source.toList ++ beginMarker.toList ++ '\n' :: inner statements symbols o).length := by
  have hm := isMark_endMarker
  obtain ⟨t, ht, htext⟩ := exists_toList_synthesize_eq source statements symbols o
  have hfirst : ¬endMarker.toList <:+: beginMarker.toList := by decide
  have hbefore : ¬endMarker.toList <:+: source.toList ++ separator source.toList ++
      '\n' :: (beginMarker.toList ++ '\n' :: t) := by
    apply hm.not_infix_parted (hm.not_infix_append_separator hsource)
    apply hm.not_infix_parted hfirst
    intro h
    exact hinner (ht ▸ h.trans (List.prefix_append t ['\n']).isInfix)
  have hplace := occursAt_parted_iff (i := i) hm.newline_notMem hm.ne_nil hbefore
    (y := []) fun h => hm.ne_nil (List.infix_nil.1 h)
  rw [htext, ht, lead]
  simp only [-String.reduceToList, List.append_assoc, List.cons_append, List.nil_append,
    List.length_append, List.length_cons, List.length_nil] at hplace ⊢
  rw [hplace]
  omega

end Places

theorem getElem?_rows_beginMarker (source : String) (statements : List String) (symbols : SymbolSet)
    (o : Options) :
    (rows (synthesize source statements symbols o).text)[lastRow source.toList + 2]? =
      some beginMarker.toList := by
  obtain ⟨t, -, htext⟩ := exists_toList_synthesize_eq source statements symbols o
  have hcount := count_append_separator source.toList
  have hrow := getElem?_splitOn (source.toList ++ separator source.toList)
    isMark_beginMarker.newline_notMem (t ++ '\n' :: (endMarker.toList ++ ['\n']))
  rw [← htext, hcount] at hrow
  exact hrow

theorem getElem?_rows_endMarker (source : String) (statements : List String) (symbols : SymbolSet)
    (o : Options) :
    let text := (synthesize source statements symbols o).text
    (rows text)[lastRow text.toList]? = some endMarker.toList := by
  intro text
  obtain ⟨t, -, htext⟩ := exists_toList_synthesize_eq source statements symbols o
  let before := source.toList ++ separator source.toList ++
    '\n' :: (beginMarker.toList ++ '\n' :: t)
  have hnot := isMark_endMarker.newline_notMem
  have htext : text.toList = before ++ '\n' :: (endMarker.toList ++ ['\n']) := by
    rw [htext]
    simp only [-String.reduceToList, before, List.append_assoc, List.cons_append]
  have hlast : lastRow text.toList = before.count '\n' + 1 := by
    rw [htext, lastRow, ← List.cons_append, ← List.append_assoc, List.dropLast_concat,
      List.count_append, List.count_cons_self, List.count_eq_zero.2 hnot]
  rw [rows, hlast, htext]
  exact getElem?_splitOn before hnot []

/-- A harness is its source and a block, which begins with one marker in the second line after those
of the source and ends with the other one in its last line. If neither marker is in what the harness
is made of, each is in the harness only there. The statements, each on lines of its own, and all the
literals are between the markers, and only line feeds are outside. -/
theorem synthesize_is_framed (source : String) (statements : List String) (symbols : SymbolSet)
    (o : Options) (hfree : ∀ s ∈ source :: inputs statements symbols o, MarkerFree s) :
    let text := (synthesize source statements symbols o).text
    let head := lead source.toList
    let inside := inner statements symbols o
    text.toList = head ++ beginMarker.toList ++ '\n' :: inside ++ endMarker.toList ++ ['\n'] ∧
      (∃ n, head = source.toList ++ List.replicate n '\n') ∧
      (∀ i, OccursAt beginMarker.toList text.toList i ↔ i = head.length) ∧
      (rows text)[lastRow source.toList + 2]? = some beginMarker.toList ∧
      (∀ i, OccursAt endMarker.toList text.toList i ↔
        i = (head ++ beginMarker.toList ++ '\n' :: inside).length) ∧
      (rows text)[lastRow text.toList]? = some endMarker.toList ∧
      (∀ s ∈ statements, '\n' :: s.toList ++ ['\n'] <:+: inside) ∧
      ∀ e ∈ entries symbols o, e.2.render <:+: inside := by
  intro text head inside
  have hinput {w : String} (hw : w ∈ source :: inputs statements symbols o) :
      ¬beginMarker.toList <:+: w.toList ∧ ¬endMarker.toList <:+: w.toList :=
    ⟨hfree w hw _ (by simp), hfree w hw _ (by simp)⟩
  have hsource := hinput List.mem_cons_self
  have hbegin := isMark_beginMarker.not_infix_inner
    fun w hw => (hinput (List.mem_cons_of_mem source hw)).1
  have hend := isMark_endMarker.not_infix_inner
    fun w hw => (hinput (List.mem_cons_of_mem source hw)).2
  have hlead : ∃ n, head = source.toList ++ List.replicate n '\n' := by
    unfold head lead separator
    split
    · exact ⟨1, by simp⟩
    · exact ⟨2, by simp⟩
  exact ⟨toList_synthesize_eq source statements symbols o, hlead,
    fun i => occursAt_beginMarker_iff hsource.1 hbegin,
    getElem?_rows_beginMarker source statements symbols o,
    fun i => occursAt_endMarker_iff hsource.2 hend,
    getElem?_rows_endMarker source statements symbols o,
    fun s hs => line_infix_inner hs symbols o, fun e he => render_infix_inner he⟩

/-- Pieces of the markers make no marker, wherever they stand. -/
theorem synthesize_is_framed_almost :
    let source := "const a = 1; /** BEGIN\nTS_REPL */"
    let o : Options :=
      ⟨"/** BEGIN TS_REPL *", "/", "** END TS_REPL */", some ["node", "/** END\nTS_REPL */"]⟩
    let symbols : SymbolSet := ⟨["a"], by simp⟩
    (∀ s ∈ source :: inputs ["export { a as __ts_repl__a };"] symbols o, MarkerFree s) ∧
      ∀ i, OccursAt beginMarker.toList
        (synthesize source ["export { a as __ts_repl__a };"] symbols o).text.toList i ↔ i = 35 := by
  intro source o symbols
  have hfree : ∀ s ∈ source :: inputs ["export { a as __ts_repl__a };"] symbols o, MarkerFree s := by
    decide +kernel
  have h := synthesize_is_framed source ["export { a as __ts_repl__a };"] symbols o hfree
  have hlength : (lead source.toList).length = 35 := by decide
  refine ⟨hfree, ?_⟩
  rw [← hlength]
  exact h.2.2.1

end TypeScriptRepl.Harness
