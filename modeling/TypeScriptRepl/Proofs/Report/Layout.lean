import TypeScriptRepl.Proofs.Text.Digits
import TypeScriptRepl.Proofs.Text.Lines
import TypeScriptRepl.Report.Diagnostic

/-! How a report is laid out: its gutters, its line of the text, and its carets. -/
namespace TypeScriptRepl

def ParseError.place? : ParseError → Option (Nat × Nat)
  | noTree => none
  | unexpected _ line column => some (line, column)
  | missing _ line column => some (line, column)

def ParseError.texts : ParseError → List String
  | noTree => []
  | unexpected found _ _ => [found]
  | missing expected _ _ => [expected]

namespace Report

open Text

theorem length_padLeft (width : Nat) (text : String) :
    (padLeft width text).toList.length = max width text.length := by
  rw [padLeft, String.toList_append, String.toList_ofList, List.length_append, List.length_replicate,
    String.length_toList]
  omega

namespace Diagnostic

/-- The number of the row with the line of the text. What was found, where it is and the top of the
gutter stand before it. -/
def excerptRow (d : Diagnostic) : Nat :=
  (d.code.getD "").toList.count '\n' + d.message.toList.count '\n' + d.file.toList.count '\n' + 3

def heading (d : Diagnostic) : List Char :=
  "error".toList ++ ((d.code.map fun c => "[" ++ c ++ "]").getD "").toList ++ ": ".toList ++
    d.message.toList ++ "\n  --> ".toList ++ d.location.toList ++ "\n   |".toList

theorem count_heading (d : Diagnostic) : d.heading.count '\n' + 1 = d.excerptRow := by
  have hcode : ((d.code.map fun c => "[" ++ c ++ "]").getD "").toList.count '\n' =
      (d.code.getD "").toList.count '\n' := by
    cases d.code <;> simp
  have hplace : d.location.toList.count '\n' = d.file.toList.count '\n' := by
    have hn (n : Nat) : (Nat.toDigits 10 n).count '\n' = 0 :=
      List.count_eq_zero.2 (not_mem_toDigits (by decide) n)
    unfold location
    split
    · simp [hn]
    · rfl
  unfold heading excerptRow
  simp [hcode, hplace]
  omega

variable {d : Diagnostic} {line : Nat} {text underline : String}

theorem toList_render_plain (hl : d.line = some line) (ht : d.sourceLine = some text)
    (hu : d.underline = some underline) :
    (d.render false).toList = d.heading ++ '\n' ::
      ((padLeft 3 (toString line)).toList ++ " | ".toList ++ text.toList ++ '\n' ::
        ("   | ".toList ++ underline.toList ++ '\n' :: (d.help false).toList)) := by
  unfold render excerpt heading
  rw [hl, ht, hu]
  simp [red, cyan, bold, paint]

/-- A report of an error that has a place shows the line of the text, and carets. -/
theorem ofError_located {e : ParseError} {column : Nat} (he : e.place? = some (line, column))
    (source file : String) :
    ∃ length, (ofError e source file).line = some line ∧
      (ofError e source file).sourceLine = (line? source.toList line).map String.ofList ∧
      (ofError e source file).underline =
        (line? source.toList line).map fun _ => carets column length := by
  cases e with
  | noTree => cases he
  | unexpected found line' column' =>
    cases he
    rw [ofError]
    exact ⟨_, rfl, rfl, Option.map_map ..⟩
  | missing expected line' column' =>
    cases he
    rw [ofError]
    exact ⟨_, rfl, rfl, Option.map_map ..⟩

/-- In a plain report, the first caret stands this much to the left of the character in a column of the
line that is shown: the row of the carets comes after the row with the line. -/
def CaretIsLeftBy (d : Diagnostic) (text : List Char) (column shift : Nat) : Prop :=
  ∃ gutter row caret, (rows (d.render false))[d.excerptRow]? = some (gutter ++ text) ∧
    (rows (d.render false))[d.excerptRow + 1]? = some row ∧ row.idxOf? '^' = some caret ∧
    caret + shift = gutter.length + (column - 1)

theorem CaretIsLeftBy.unique {d : Diagnostic} {text : List Char} {column a b : Nat}
    (ha : d.CaretIsLeftBy text column a) (hb : d.CaretIsLeftBy text column b) : a = b := by
  obtain ⟨gutter, row, caret, h1, h2, h3, h4⟩ := ha
  obtain ⟨gutter', row', caret', h1', h2', h3', h4'⟩ := hb
  have hgutter : gutter = gutter' :=
    List.append_cancel_right (Option.some.inj (h1.symm.trans h1'))
  have hrow : row = row' := Option.some.inj (h2.symm.trans h2')
  have hcaret : caret = caret' := by
    rw [hrow] at h3
    exact Option.some.inj (h3.symm.trans h3')
  rw [← hgutter, ← hcaret] at h4'
  omega

/-- The first caret comes after its gutter and the blanks. -/
theorem idxOf?_carets (gutter : List Char) (h : '^' ∉ gutter) (column length : Nat) :
    (gutter ++ (carets column length).toList).idxOf? '^' = some (gutter.length + (column - 1)) := by
  obtain ⟨n, hn⟩ : ∃ n, max length 1 = n + 1 := ⟨max length 1 - 1, by omega⟩
  have hblank : '^' ∉ gutter ++ List.replicate (column - 1) ' ' := by simp [h]
  have hlength : (gutter ++ List.replicate (column - 1) ' ').length = gutter.length + (column - 1) := by
    simp
  rw [carets, String.toList_ofList, hn, List.replicate_succ, ← List.append_assoc, ← hlength]
  generalize gutter ++ List.replicate (column - 1) ' ' = before at hblank
  induction before with
  | nil => rfl
  | cons c cs ih =>
    rw [List.mem_cons, not_or] at hblank
    rw [List.cons_append, List.idxOf?_cons, ih hblank.2]
    simp [Ne.symm hblank.1]

theorem caret_isLeft (hl : d.line = some line) (ht : d.sourceLine = some text)
    {column length : Nat} (hu : d.underline = some (carets column length)) (hrow : '\n' ∉ text.toList) :
    d.CaretIsLeftBy text.toList column (max 3 (toString line).length - 2) := by
  have hdigits : '\n' ∉ (padLeft 3 (toString line)).toList ++ " | ".toList ++ text.toList := by
    simp [padLeft, not_mem_toDigits, hrow]
  have hcarets : '\n' ∉ "   | ".toList ++ (carets column length).toList := by
    simp [carets]
  have hgutter : '^' ∉ "   | ".toList := by decide
  refine ⟨(padLeft 3 (toString line)).toList ++ " | ".toList,
    "   | ".toList ++ (carets column length).toList, 5 + (column - 1), ?_, ?_, ?_, ?_⟩
  · rw [rows, toList_render_plain hl ht hu, ← count_heading]
    exact getElem?_splitOn _ hdigits _
  · have hcount : (d.heading ++ '\n' :: ((padLeft 3 (toString line)).toList ++ " | ".toList ++
        text.toList)).count '\n' = d.excerptRow := by
      rw [← count_heading, List.count_append, List.count_cons_self, List.count_eq_zero.2 hdigits]
    rw [rows, toList_render_plain hl ht hu, ← hcount, ← List.cons_append, ← List.append_assoc]
    exact getElem?_splitOn _ hcarets _
  · exact idxOf?_carets _ hgutter column length
  · rw [List.length_append, length_padLeft]
    have : " | ".toList.length = 3 := rfl
    omega

/-- In the plain report of an error, the first caret stands left of the character at which the error is:
by one character, and by one more for each digit of the number of the line from the fourth on. -/
theorem caretIsLeftBy_iff {e : ParseError} {source file : String} {column : Nat} {text : List Char}
    (he : e.place? = some (line, column)) (hl : line? source.toList line = some text) (shift : Nat) :
    (ofError e source file).CaretIsLeftBy text column shift ↔
      shift = max 3 (toString line).length - 2 := by
  obtain ⟨length, hline, htext, hcarets⟩ := ofError_located he source file
  rw [hl] at htext hcarets
  have hrow : '\n' ∉ (String.ofList text).toList := by
    rw [String.toList_ofList]
    exact fun hc => (of_mem_line hl hc).2 rfl
  have h := caret_isLeft hline htext hcarets hrow
  rw [String.toList_ofList] at h
  constructor
  · intro hs
    exact hs.unique h
  · rintro rfl
    exact h

def doubleSign : ParseError := .unexpected "=" 1 9

theorem caretIsLeftBy_iff_doubleSign :
    doubleSign.place? = some (1, 9) ∧
      line? "const x = = 1\n".toList 1 = some "const x = = 1".toList ∧
      ((ofError doubleSign "const x = = 1\n" "m.ts").CaretIsLeftBy "const x = = 1".toList 9 1 ↔
        1 = max 3 (toString 1).length - 2) := by
  have hl : line? "const x = = 1\n".toList 1 = some "const x = = 1".toList := by decide +kernel
  exact ⟨rfl, hl, caretIsLeftBy_iff rfl hl 1⟩

/-- The caret is not below the sign. -/
theorem not_caretIsLeftBy_zero_doubleSign :
    doubleSign.place? = some (1, 9) ∧
      line? "const x = = 1\n".toList 1 = some "const x = = 1".toList ∧
      9 ≤ "const x = = 1".toList.length ∧
      ¬(ofError doubleSign "const x = = 1\n" "m.ts").CaretIsLeftBy "const x = = 1".toList 9 0 := by
  refine ⟨rfl, by decide +kernel, by decide, ?_⟩
  intro h
  have htext : (ofError doubleSign "const x = = 1\n" "m.ts").sourceLine = some "const x = = 1" := by
    decide +kernel
  have hcarets : (ofError doubleSign "const x = = 1\n" "m.ts").underline = some (carets 9 1) := by
    decide +kernel
  have hleft := caret_isLeft rfl htext hcarets (by decide)
  exact absurd (h.unique hleft) (by decide)

end Diagnostic
end Report
end TypeScriptRepl
