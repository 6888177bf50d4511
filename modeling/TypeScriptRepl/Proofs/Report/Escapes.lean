import TypeScriptRepl.Proofs.Report.Layout

/-! Colored reports without their escapes, which are the plain ones but for blanks before the number of the
line. -/
namespace TypeScriptRepl

namespace Text

def escapeSign : Char := '\x1b'

/-- What may stand between the bracket and the letter of an escape that sets the rendition. -/
def isRendition (c : Char) : Bool := c.isDigit || c = ';'

/-- How long the escape is that sets the rendition, where a text begins with one. -/
def renditionLength? : List Char → Option Nat
  | '\x1b' :: '[' :: rest =>
    if (rest.dropWhile isRendition).head? = some 'm' then
      some ((rest.takeWhile isRendition).length + 3)
    else none
  | _ => none

/-- The text without the escapes that set the rendition, after `skipped` more characters. -/
def withoutRenditionsAfter : Nat → List Char → List Char
  | _, [] => []
  | skipped + 1, _ :: rest => withoutRenditionsAfter skipped rest
  | 0, c :: rest =>
    match renditionLength? (c :: rest) with
    | some n => withoutRenditionsAfter (n - 1) rest
    | none => c :: withoutRenditionsAfter 0 rest

def withoutRenditions (cs : List Char) : List Char := withoutRenditionsAfter 0 cs

theorem withoutRenditionsAfter_length (skipped rest : List Char) :
    withoutRenditionsAfter skipped.length (skipped ++ rest) = withoutRenditions rest := by
  induction skipped with
  | nil => rfl
  | cons c skipped ih => exact ih

theorem withoutRenditions_cons {c : Char} (h : c ≠ escapeSign) (rest : List Char) :
    withoutRenditions (c :: rest) = c :: withoutRenditions rest := by
  have hn : renditionLength? (c :: rest) = none := by
    unfold renditionLength?
    split
    · rename_i hc
      cases hc
      exact absurd rfl h
    · rfl
  rw [withoutRenditions, withoutRenditionsAfter, hn]
  rfl

/-- Where there is no escape, nothing is left out. -/
theorem withoutRenditions_append {cs : List Char} (h : escapeSign ∉ cs) (rest : List Char) :
    withoutRenditions (cs ++ rest) = cs ++ withoutRenditions rest := by
  induction cs with
  | nil => rfl
  | cons c cs ih =>
    rw [List.mem_cons, not_or] at h
    rw [List.cons_append, withoutRenditions_cons (Ne.symm h.1), ih h.2]
    rfl

theorem withoutRenditions_escape {rendition : List Char} (h : ∀ c ∈ rendition, isRendition c = true)
    (rest : List Char) :
    withoutRenditions (escapeSign :: '[' :: (rendition ++ 'm' :: rest)) = withoutRenditions rest := by
  have hm : isRendition 'm' = false := by decide
  have htake : (rendition ++ 'm' :: rest).takeWhile isRendition = rendition := by
    rw [List.takeWhile_append_of_pos h, List.takeWhile_cons_of_neg (by simp [hm]), List.append_nil]
  have hdrop : (rendition ++ 'm' :: rest).dropWhile isRendition = 'm' :: rest := by
    rw [List.dropWhile_append_of_pos h, List.dropWhile_cons_of_neg (by simp [hm])]
  have hn : renditionLength? (escapeSign :: '[' :: (rendition ++ 'm' :: rest)) =
      some (rendition.length + 3) := by
    simp only [renditionLength?, escapeSign, htake, hdrop]
    rfl
  rw [withoutRenditions, withoutRenditionsAfter, hn]
  have hlength := withoutRenditionsAfter_length ('[' :: (rendition ++ ['m'])) rest
  simpa using hlength

end Text

namespace Report

open Text

/-- Without its escapes, the first text is the second, whatever comes after it. -/
def Shows (s t : String) : Prop :=
  ∀ rest, withoutRenditions (s.toList ++ rest) = t.toList ++ withoutRenditions rest

namespace Shows

variable {s s' t t' : String}

theorem eq (h : Shows s t) : withoutRenditions s.toList = t.toList := by
  simpa [withoutRenditions, withoutRenditionsAfter] using h []

theorem append (h : Shows s t) (h' : Shows s' t') : Shows (s ++ s') (t ++ t') := by
  intro rest
  rw [String.toList_append, String.toList_append, List.append_assoc, h, h', List.append_assoc]

theorem of_plain (h : escapeSign ∉ s.toList) : Shows s s := withoutRenditions_append h

theorem paint {rendition : String} (hr : rendition.toList.all isRendition = true)
    (h : escapeSign ∉ s.toList) (color : Bool) : Shows (paint color rendition s) s := by
  cases color with
  | false => exact of_plain h
  | true =>
    intro rest
    have hreset : withoutRenditions (escapeSign :: '[' :: (['0'] ++ 'm' :: rest)) =
        withoutRenditions rest := withoutRenditions_escape (List.all_eq_true.1 rfl) rest
    have hp : (Report.paint true rendition s).toList ++ rest =
        escapeSign :: '[' :: (rendition.toList ++ 'm' ::
          (s.toList ++ escapeSign :: '[' :: (['0'] ++ 'm' :: rest))) := by
      simp [Report.paint, escapeSign]
    rw [hp, withoutRenditions_escape (List.all_eq_true.1 hr), withoutRenditions_append h, hreset]

theorem join {f g : String → String} {ss : List String} (h : ∀ s ∈ ss, Shows (f s) (g s)) :
    Shows (String.join (ss.map f)) (String.join (ss.map g)) := by
  induction ss with
  | nil => exact fun _ => rfl
  | cons s ss ih =>
    rw [List.map_cons, List.map_cons, String.join_cons, String.join_cons]
    exact (h s List.mem_cons_self).append (ih fun s hs => h s (List.mem_cons_of_mem _ hs))

end Shows

theorem padLeft_of_le {width : Nat} {s : String} (h : width ≤ s.length) : padLeft width s = s := by
  rw [padLeft, Nat.sub_eq_zero_of_le h]
  exact String.empty_append

namespace Diagnostic

def texts (d : Diagnostic) : List String :=
  d.code.toList ++ d.message :: d.file ::
    (d.sourceLine.toList ++ d.underline.toList ++ d.suggestions)

def EscapeFree (d : Diagnostic) : Prop := ∀ s ∈ d.texts, escapeSign ∉ s.toList

def excerptLine? (d : Diagnostic) : Option Nat :=
  match d.line, d.sourceLine, d.underline with
  | some line, some _, some _ => some line
  | _, _, _ => none

/-- How many blanks stand before the number of the line in a plain report. -/
def numberBlanks (d : Diagnostic) : Nat :=
  (d.excerptLine?.map fun n => 3 - (toString n).length).getD 0

theorem numberBlanks_eq_zero_iff (d : Diagnostic) :
    d.numberBlanks = 0 ↔ ∀ n ∈ d.excerptLine?, 100 ≤ n := by
  unfold numberBlanks
  cases d.excerptLine? with
  | none => simp
  | some n =>
    have hn : (toString n).length ≤ 2 ↔ n < 10 ^ 2 := Nat.length_repr_le_iff (by decide)
    simp only [Option.map_some, Option.getD_some, Option.mem_some_iff, forall_eq']
    omega

variable {d : Diagnostic}

theorem excerptLine?_eq_some {n : Nat} (h : d.excerptLine? = some n) :
    ∃ text underline, d.line = some n ∧ d.sourceLine = some text ∧ d.underline = some underline := by
  unfold excerptLine? at h
  split at h
  · rename_i line text underline hl ht hu
    cases h
    exact ⟨text, underline, hl, ht, hu⟩
  · cases h

theorem excerpt_of_none (h : d.excerptLine? = none) (color : Bool) : d.excerpt color = "" := by
  have hnone (line : Nat) (text underline : String) (hl : d.line = some line)
      (ht : d.sourceLine = some text) : d.underline ≠ some underline := by
    intro hu
    rw [excerptLine?, hl, ht, hu] at h
    cases h
  unfold excerpt
  split
  · rename_i hl ht hu
    exact absurd hu (hnone _ _ _ hl ht)
  · rfl

def top (color : Bool) (d : Diagnostic) : String :=
  red color "error" ++ ((d.code.map fun c => "[" ++ bold color c ++ "]").getD "") ++ ": " ++
    bold color d.message ++ "\n" ++ "  " ++ cyan color "-->" ++ " " ++ d.location ++ "\n"

theorem render_eq (color : Bool) (d : Diagnostic) :
    d.render color = d.top color ++ d.excerpt color ++ d.help color := rfl

theorem escapeFree_location (h : d.EscapeFree) : escapeSign ∉ d.location.toList := by
  have hn (n : Nat) : escapeSign ∉ Nat.toDigits 10 n := not_mem_toDigits (by decide) n
  have hfile := h d.file (by simp [texts])
  unfold escapeSign at hn hfile ⊢
  unfold location
  split
  · simp [hn, hfile]
  · exact hfile

theorem shows_top (h : d.EscapeFree) : Shows (d.top true) (d.top false) := by
  have hcode : Shows ((d.code.map fun c => "[" ++ bold true c ++ "]").getD "")
      ((d.code.map fun c => "[" ++ bold false c ++ "]").getD "") := by
    cases hc : d.code with
    | none => exact .of_plain (by decide)
    | some c =>
      have hbold : Shows (bold true c) c := .paint rfl (h c (by simp [texts, hc])) true
      exact ((Shows.of_plain (by decide)).append hbold).append (.of_plain (by decide))
  have hmessage : Shows (bold true d.message) d.message :=
    .paint rfl (h d.message (by simp [texts])) true
  have herror : Shows (red true "error") "error" := .paint rfl (by decide) true
  have harrow : Shows (cyan true "-->") "-->" := .paint rfl (by decide) true
  have hlocation := Shows.of_plain (escapeFree_location h)
  have hcolon : Shows ": " ": " := .of_plain (by decide)
  have hend : Shows "\n" "\n" := .of_plain (by decide)
  have hblank : Shows " " " " := .of_plain (by decide)
  have hblanks : Shows "  " "  " := .of_plain (by decide)
  exact ((((((((herror.append hcode).append hcolon).append hmessage).append hend).append
    hblanks).append harrow).append hblank).append hlocation).append hend

theorem shows_help (h : d.EscapeFree) : Shows (d.help true) (d.help false) := by
  have hbar : Shows (cyan true "|") "|" := .paint rfl (by decide) true
  have hsign : Shows (cyan true "=") "=" := .paint rfl (by decide) true
  have hword : Shows (cyan true "help") "help" := .paint rfl (by decide) true
  have hmargin : Shows "   " "   " := .of_plain (by decide)
  have hblank : Shows " " " " := .of_plain (by decide)
  have hcolon : Shows ": " ": " := .of_plain (by decide)
  have hend : Shows "\n" "\n" := .of_plain (by decide)
  unfold help
  split
  · exact .of_plain (by decide)
  · refine ((hmargin.append hbar).append hend).append (.join fun s hs => ?_)
    have hfree : Shows s s := .of_plain (h s (by simp [texts, hs]))
    exact ((((((hmargin.append hsign).append hblank).append hword).append hcolon).append
      hfree).append hend)

theorem shows_number (n : Nat) : Shows (cyan true (toString n)) (toString n) := by
  refine .paint rfl ?_ true
  rw [Nat.toString_eq_repr, Nat.toList_repr]
  exact not_mem_toDigits (by decide) n

/-- The escapes around the number are longer than the number is meant to be wide. -/
theorem padLeft_cyan (s : String) : padLeft 3 (cyan true s) = cyan true s := by
  have hlength : (cyan true s).length =
      ("\x1b[" ++ "36" ++ "m").length + s.length + "\x1b[0m".length := by
    unfold cyan paint
    rw [if_pos rfl, String.length_append, String.length_append]
  have hcolor : 3 ≤ ("\x1b[" ++ "36" ++ "m").length := by decide
  exact padLeft_of_le (by omega)

/-- A colored report shows what the plain one says, less the blanks before the number of the line. -/
theorem exists_shows_render (h : d.EscapeFree) :
    ∃ before after : String,
      d.render false = before ++ String.ofList (List.replicate d.numberBlanks ' ') ++ after ∧
      Shows (d.render true) (before ++ after) := by
  have htop := shows_top h
  have hhelp := shows_help h
  cases hline : d.excerptLine? with
  | none =>
    refine ⟨d.render false, "", ?_, ?_⟩
    · simp [numberBlanks, hline]
    · have hrender (color : Bool) : d.render color = d.top color ++ d.help color := by
        rw [render_eq, excerpt_of_none hline, String.append_empty]
      rw [hrender, hrender, String.append_empty]
      exact htop.append hhelp
  | some n =>
    obtain ⟨text, underline, hl, ht, hu⟩ := excerptLine?_eq_some hline
    have hbar : Shows (cyan true "|") "|" := .paint rfl (by decide) true
    have hmargin : Shows "   " "   " := .of_plain (by decide)
    have hblank : Shows " " " " := .of_plain (by decide)
    have hend : Shows "\n" "\n" := .of_plain (by decide)
    have htext : Shows text text := .of_plain (h text (by simp [texts, ht]))
    have hcarets : Shows (red true underline) underline :=
      .paint rfl (h underline (by simp [texts, hu])) true
    refine ⟨d.top false ++ "   " ++ "|" ++ "\n",
      toString n ++ " " ++ "|" ++ " " ++ text ++ "\n" ++ "   " ++ "|" ++ " " ++ underline ++ "\n" ++
        d.help false, ?_, ?_⟩
    · simp [render_eq, excerpt, hl, ht, hu, numberBlanks, hline, padLeft, cyan, red, paint,
        String.append_assoc]
    · have hexcerpt : d.render true = d.top true ++ "   " ++ cyan true "|" ++ "\n" ++
          (cyan true (toString n) ++ " " ++ cyan true "|" ++ " " ++ text ++ "\n" ++ "   " ++
            cyan true "|" ++ " " ++ red true underline ++ "\n" ++ d.help true) := by
        rw [render_eq, excerpt, hl, ht, hu]
        simp only [padLeft_cyan, String.append_assoc]
      rw [hexcerpt]
      exact (((htop.append hmargin).append hbar).append hend).append
        ((((((((((((shows_number n).append hblank).append hbar).append hblank).append htext).append
          hend).append hmargin).append hbar).append hblank).append hcarets).append hend).append hhelp)

theorem withoutRenditions_render_iff (h : d.EscapeFree) :
    withoutRenditions (d.render true).toList = (d.render false).toList ↔
      ∀ n ∈ d.excerptLine?, 100 ≤ n := by
  obtain ⟨before, after, hplain, hshows⟩ := exists_shows_render h
  rw [← numberBlanks_eq_zero_iff, hshows.eq, hplain]
  constructor
  · intro heq
    have hlength := congrArg List.length heq
    simp at hlength
    omega
  · intro hzero
    simp [hzero]

end Diagnostic

theorem mem_of_mem_suggest {word w : String} {candidates : List String} {maxDistance : Nat}
    (h : w ∈ suggest word candidates maxDistance) : w ∈ candidates := by
  unfold suggest at h
  obtain ⟨⟨distance, w⟩, hw, rfl⟩ := List.mem_map.1 (List.mem_of_mem_take h)
  rw [List.mem_mergeSort, List.mem_filterMap] at hw
  obtain ⟨c, hc, hd⟩ := hw
  dsimp only at hd
  split at hd
  · cases hd
    exact hc
  · cases hd

namespace Diagnostic

theorem mem_clauseWords_of_mem_corrections {found w : String} (h : w ∈ corrections found) :
    w ∈ clauseWords := by
  unfold corrections at h
  dsimp only at h
  split at h
  · cases h
  · exact mem_of_mem_suggest h

theorem escapeFree_at {code message file : String} {source : List Char} {suggestions : List String}
    (hcode : escapeSign ∉ code.toList) (hmessage : escapeSign ∉ message.toList)
    (hfile : escapeSign ∉ file.toList) (hsource : escapeSign ∉ source)
    (hsuggestions : ∀ s ∈ suggestions, escapeSign ∉ s.toList) (line column length : Nat) :
    (at_ code message file source line column length suggestions).EscapeFree := by
  intro s hs
  simp only [texts, at_, Option.toList_some, List.singleton_append, List.mem_cons, List.mem_append,
    Option.mem_toList, Option.map_eq_some_iff] at hs
  rcases hs with rfl | rfl | rfl | (⟨text, htext, rfl⟩ | ⟨_, _, rfl⟩) | hs
  · exact hcode
  · exact hmessage
  · exact hfile
  · rw [String.toList_ofList]
    exact fun hc => hsource (of_mem_line htext hc).1
  · simp [carets, escapeSign]
  · exact hsuggestions s hs

/-- Nothing in the report of an error brings in an escape. -/
theorem escapeFree_ofError {e : ParseError} {source file : String}
    (he : ∀ s ∈ e.texts, escapeSign ∉ s.toList) (hs : escapeSign ∉ source.toList)
    (hf : escapeSign ∉ file.toList) : (ofError e source file).EscapeFree := by
  cases e with
  | noTree =>
    intro s hs
    simp only [texts, ofError, Option.toList_some, Option.toList_none, List.nil_append,
      List.singleton_append, List.mem_cons, List.not_mem_nil, or_false] at hs
    rcases hs with rfl | rfl | rfl
    · decide
    · decide
    · exact hf
  | unexpected found line column =>
    have hfound := he found List.mem_cons_self
    have hwords : ∀ w ∈ clauseWords, escapeSign ∉ w.toList := by decide
    unfold escapeSign at hfound hwords
    refine escapeFree_at (by decide) ?_ hf hs ?_ line column _
    · split
      · decide
      · simp [escapeSign, hfound]
    · intro s hs
      obtain ⟨w, hw, rfl⟩ := List.mem_map.1 hs
      have hword := hwords w (mem_clauseWords_of_mem_corrections hw)
      simp [escapeSign, hword]
  | missing expected line column =>
    have hexpected := he expected List.mem_cons_self
    unfold escapeSign at hexpected
    refine escapeFree_at (by decide) ?_ hf hs ?_ line column _
    · simp [escapeSign, hexpected]
    · simp [escapeSign, hexpected]

/-- The report of an error shows the line in which the error is, if the text has it. -/
theorem mem_excerptLine?_ofError (e : ParseError) (source file : String) (n : Nat) :
    n ∈ (ofError e source file).excerptLine? ↔
      ∃ column, e.place? = some (n, column) ∧ (line? source.toList n).isSome := by
  cases hp : e.place? with
  | none =>
    cases e with
    | noTree => simp [ofError, excerptLine?]
    | unexpected => cases hp
    | missing => cases hp
  | some place =>
    obtain ⟨line, column⟩ := place
    obtain ⟨length, hline, htext, hcarets⟩ := ofError_located hp source file
    unfold excerptLine?
    rw [hline, htext, hcarets]
    cases hl : line? source.toList line with
    | none =>
      constructor
      · intro h
        cases h
      · rintro ⟨_, h, hsome⟩
        cases h
        rw [hl] at hsome
        cases hsome
    | some text =>
      constructor
      · intro h
        cases h
        exact ⟨column, rfl, by rw [hl]; rfl⟩
      · rintro ⟨_, h, -⟩
        cases h
        rfl

/-- Of texts without escapes, the colored report says what the plain one says if and only if no line is
shown whose number has fewer than three digits. So it is with the report of an error. -/
theorem reports_say_the_same_iff {d : Diagnostic} (hd : d.EscapeFree) {e : ParseError}
    {source file : String} (he : ∀ s ∈ e.texts, escapeSign ∉ s.toList)
    (hs : escapeSign ∉ source.toList) (hf : escapeSign ∉ file.toList) :
    (withoutRenditions (d.render true).toList = (d.render false).toList ↔
        ∀ n ∈ d.excerptLine?, 100 ≤ n) ∧
      (withoutRenditions ((ofError e source file).render true).toList =
          ((ofError e source file).render false).toList ↔
        ∀ line column, e.place? = some (line, column) → (line? source.toList line).isSome →
          100 ≤ line) := by
  refine ⟨withoutRenditions_render_iff hd, ?_⟩
  rw [withoutRenditions_render_iff (escapeFree_ofError he hs hf)]
  simp only [mem_excerptLine?_ofError]
  constructor
  · exact fun h line column hp hl => h line ⟨column, hp, hl⟩
  · rintro h line ⟨column, hp, hl⟩
    exact h line column hp hl

def hundredLines : String := String.ofList (List.replicate 99 '\n') ++ "const x = = 1\n"

theorem reports_say_the_same_iff_hundredthLine :
    let e : ParseError := .unexpected "=" 100 9
    let d := ofError e hundredLines "m.ts"
    d.EscapeFree ∧ d.excerptLine? = some 100 ∧
      (withoutRenditions (d.render true).toList = (d.render false).toList ↔
        ∀ n ∈ d.excerptLine?, 100 ≤ n) ∧
      withoutRenditions (d.render true).toList = (d.render false).toList := by
  intro e d
  have he : ∀ s ∈ e.texts, escapeSign ∉ s.toList := by decide
  have hs : escapeSign ∉ hundredLines.toList := by decide +kernel
  have hf : escapeSign ∉ "m.ts".toList := by decide
  have hd : d.EscapeFree := escapeFree_ofError he hs hf
  obtain ⟨hiff, herror⟩ := reports_say_the_same_iff hd he hs hf
  refine ⟨hd, by decide +kernel, hiff, herror.2 ?_⟩
  rintro line column h -
  cases h
  decide

/-- In the first line, the two blanks before the number are missing from the colored report. -/
theorem not_reports_say_the_same_doubleSign :
    let d := ofError doubleSign "const x = = 1\n" "m.ts"
    d.EscapeFree ∧ withoutRenditions (d.render true).toList ≠ (d.render false).toList := by
  intro d
  have hd : d.EscapeFree := escapeFree_ofError (by decide) (by decide) (by decide)
  have hline : d.excerptLine? = some 1 := by decide +kernel
  refine ⟨hd, ?_⟩
  rw [ne_eq, withoutRenditions_render_iff hd]
  intro h
  exact absurd (h 1 hline) (by decide)

end Diagnostic
end Report
end TypeScriptRepl
