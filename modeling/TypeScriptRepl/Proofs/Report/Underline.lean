import TypeScriptRepl.Proofs.Program.Spans
import TypeScriptRepl.Proofs.Report.Layout

/-! What a report of text that fits nowhere underlines. -/
namespace TypeScriptRepl

open Syntax Text

namespace Text

/-- A row as a line is shown: without a carriage return that stands before a line feed. -/
def shownRow (s : String) (number : Nat) (row : List Char) : List Char :=
  if number < (rows s).length then withoutReturn row else row

theorem trimEnd_isPrefix (cs : List Char) : trimEnd cs <+: cs := List.rdropWhile_prefix isBlank cs

theorem getLast?_trimEnd (cs : List Char) : (trimEnd cs).getLast? ≠ some '\r' := by
  intro h
  obtain ⟨before, hb⟩ := List.getLast?_eq_some_iff.1 h
  have hne : cs.rdropWhile isBlank ≠ [] := by
    show trimEnd cs ≠ []
    rw [hb]
    simp
  have hlast : (cs.rdropWhile isBlank).getLast hne = '\r' := by
    apply Option.some.inj
    rw [← List.getLast?_eq_some_getLast]
    exact h
  have hblank := List.rdropWhile_last_not isBlank cs hne
  rw [hlast] at hblank
  exact hblank (by decide)

theorem takeWhile_prefix_append (p : Char → Bool) (as bs : List Char) :
    as.takeWhile p <+: (as ++ bs).takeWhile p := by
  rw [List.takeWhile_append]
  split
  · exact (List.takeWhile_prefix p).trans (List.prefix_append _ _)
  · exact List.prefix_refl _

/-- A text that begins at a place and ends within its row, but with no carriage return, is in the line
that the row is shown as. -/
theorem exists_shownRow {source : String} {before rest piece : List Char}
    (hs : source.toList = before ++ rest) (hp : piece <+: rest.takeWhile (· ≠ '\n'))
    (hne : piece ≠ []) (hlast : piece.getLast? ≠ some '\r') :
    ∃ row tail, (rows source)[before.count '\n']? = some row ∧
      shownRow source (before.count '\n' + 1) row = lastLine before ++ (piece ++ tail) ∧
      line? source.toList (before.count '\n' + 1) = some (lastLine before ++ (piece ++ tail)) := by
  obtain ⟨tail, ht⟩ := hp
  have hrow : (rows source)[before.count '\n']? = some (lastLine before ++ piece ++ tail) := by
    rw [rows, hs, getElem?_splitOn_count, ← ht, List.append_assoc]
  have hline : line? source.toList (before.count '\n' + 1) =
      some (shownRow source (before.count '\n' + 1) (lastLine before ++ piece ++ tail)) :=
    line?_eq_of_row hrow (by simp [hne])
  have hend : (lastLine before ++ piece).getLast? ≠ some '\r' := by
    rwa [List.getLast?_append, List.getLast?_eq_some_getLast hne, Option.some_or,
      ← List.getLast?_eq_some_getLast hne]
  obtain ⟨tail', hshown⟩ : ∃ tail', shownRow source (before.count '\n' + 1)
      (lastLine before ++ piece ++ tail) = lastLine before ++ (piece ++ tail') := by
    rw [shownRow]
    split
    · exact ⟨withoutReturn tail, by rw [withoutReturn_append hend, List.append_assoc]⟩
    · exact ⟨tail, List.append_assoc ..⟩
  exact ⟨_, tail', hrow, hshown, hshown ▸ hline⟩

end Text

theorem ParseError.ofNode_eq_unexpected {text : List Char} {n : Node} {found : String}
    {line column : Nat} (h : ofNode text n = .unexpected found line column) :
    found.toList = (trimEnd ((n.text text).takeWhile (· ≠ '\n'))).take maxFound ∧
      line = (n.span text).line ∧ column = (n.span text).column := by
  unfold ofNode at h
  dsimp only at h
  split at h
  · cases h
  · cases h
    exact ⟨String.toList_ofList .., rfl, rfl⟩

namespace Report.Diagnostic

/-- The report shows a line, in which `found` stands from a column on, and carets below it. -/
structure Underlines (d : Diagnostic) (line : List Char) (column : Nat) (found : List Char) :
    Prop where
  sourceLine : d.sourceLine = some (String.ofList line)
  begins : found <+: line.drop (column - 1)
  within : column - 1 + found.length ≤ line.length
  underline : d.underline =
    some (String.ofList (List.replicate (column - 1) ' ' ++ List.replicate found.length '^'))

variable {source file found : String} {line column : Nat}

theorem underline_ofError_unexpected (source file found : String) (line column : Nat) :
    (ofError (.unexpected found line column) source file).underline =
      (line? source.toList line).map fun _ =>
        carets column (min found.length (restOfLine source.toList line column)) := by
  rw [ofError]
  exact Option.map_map ..

/-- Text that stands in the line that is shown is underlined as a whole. -/
theorem underlines_of_line {head rest : List Char}
    (hl : line? source.toList line = some (head ++ rest)) (hf : found.toList <+: rest)
    (hne : found.toList ≠ []) :
    (ofError (.unexpected found line (head.length + 1)) source file).Underlines (head ++ rest)
      (head.length + 1) found.toList := by
  have hle := hf.length_le
  have hpos := List.length_pos_iff.2 hne
  have hrest : restOfLine source.toList line (head.length + 1) = rest.length := by
    rw [restOfLine, hl, Option.map_some, Option.getD_some, List.length_append]
    omega
  constructor
  · rw [ofError]
    show (line? source.toList line).map String.ofList = _
    rw [hl, Option.map_some]
  · rwa [Nat.add_sub_cancel, List.drop_left]
  · rw [List.length_append]
    omega
  · rw [underline_ofError_unexpected, hl, Option.map_some, hrest, carets]
    have hlength : max (min found.length rest.length) 1 = found.toList.length := by
      rw [← String.length_toList]
      omega
    rw [hlength]

/-- A report of a piece of the text that fits nowhere shows the row in which the piece begins. Below
it, carets underline all that was found of the piece, or one caret where nothing was found. -/
theorem ofError_underlines_found {n : Node} {piece : List Char}
    (hn : n.range.Covers source.toList piece)
    (h : ParseError.ofNode source.toList n = .unexpected found line column) :
    (found ≠ "" → 1 ≤ line ∧ 1 ≤ column ∧ ∃ row, (rows source)[line - 1]? = some row ∧
      (ofError (.unexpected found line column) source file).Underlines (shownRow source line row)
        column found.toList) ∧
    (found = "" → ∀ u, (ofError (.unexpected found line column) source file).underline = some u →
      u = String.ofList (List.replicate (column - 1) ' ' ++ ['^'])) := by
  obtain ⟨before, after, htext, -, -, hline, hcolumn⟩ := Node.span_covers hn
  obtain ⟨hfound, rfl, rfl⟩ := ParseError.ofNode_eq_unexpected h
  constructor
  · intro hne
    have hne' : found.toList ≠ [] := fun he => hne (String.toList_eq_nil_iff.1 he)
    generalize htrimmed : trimEnd ((n.text source.toList).takeWhile (· ≠ '\n')) = trimmed at hfound
    have hprefix : trimmed <+: (n.text source.toList ++ after).takeWhile (· ≠ '\n') :=
      htrimmed ▸ (trimEnd_isPrefix _).trans (takeWhile_prefix_append _ _ _)
    have htrimmed_ne : trimmed ≠ [] := by
      rintro rfl
      exact hne' (by rw [hfound, List.take_nil])
    rw [List.append_assoc] at htext
    obtain ⟨row, tail, hrow, hshown, hshows⟩ :=
      exists_shownRow htext hprefix htrimmed_ne (htrimmed ▸ getLast?_trimEnd _)
    rw [hline, hcolumn]
    refine ⟨Nat.le_add_left .., Nat.le_add_left .., row, hrow, ?_⟩
    rw [hshown]
    refine underlines_of_line hshows ?_ hne'
    rw [hfound]
    exact (List.take_prefix _ _).trans (List.prefix_append _ _)
  · rintro rfl u hu
    rw [underline_ofError_unexpected] at hu
    obtain ⟨_, -, rfl⟩ := Option.map_eq_some_iff.1 hu
    rw [carets, String.length_empty, Nat.zero_min]
    rfl

/-- An error over two lines, after a byte order mark, a line that ends with a carriage return and a
letter of two bytes. -/
theorem ofError_underlines_found_overTwoLines :
    let source := "\uFEFFvar a\r\nlet é = = 1\r\n\x7d"
    let n : Node := .mk ⟨.error, none, ⟨19, 25, 1, 9⟩, false, true⟩ []
    n.range.Covers source.toList "= 1\r\n\x7d".toList ∧
      ParseError.ofNode source.toList n = .unexpected "= 1" 2 9 ∧
      (("= 1" ≠ "" → 1 ≤ 2 ∧ 1 ≤ 9 ∧ ∃ row, (rows source)[1]? = some row ∧
        (ofError (.unexpected "= 1" 2 9) source "m.ts").Underlines (shownRow source 2 row)
          9 "= 1".toList) ∧
      ("= 1" = "" → ∀ u, (ofError (.unexpected "= 1" 2 9) source "m.ts").underline = some u →
        u = String.ofList (List.replicate 8 ' ' ++ ['^']))) := by
  intro source n
  have hn : n.range.Covers source.toList "= 1\r\n\x7d".toList :=
    ⟨"\uFEFFvar a\r\nlet é = ".toList, [], by decide +kernel⟩
  have h : ParseError.ofNode source.toList n = .unexpected "= 1" 2 9 := by decide +kernel
  exact ⟨hn, h, ofError_underlines_found hn h⟩

/-- A carriage return at the end of a text stays on the line that is shown: no line feed follows it. -/
theorem not_sourceLine_withoutReturn_lastRow :
    let source := "const x = = 1\r"
    let n : Node := .mk ⟨.error, none, ⟨8, 9, 0, 8⟩, false, true⟩ []
    n.range.Covers source.toList ['='] ∧
      ParseError.ofNode source.toList n = .unexpected "=" 1 9 ∧
      (rows source)[0]? = some source.toList ∧
      (ofError (.unexpected "=" 1 9) source "m.ts").sourceLine ≠
        some (String.ofList (withoutReturn source.toList)) := by
  refine ⟨⟨"const x ".toList, " = 1\r".toList, ?_⟩, ?_, ?_, ?_⟩ <;> decide +kernel

end Report.Diagnostic
end TypeScriptRepl
