import TypeScriptRepl.Proofs.Text.Position
import TypeScriptRepl.Text.Lines

/-! Rows and lines: line feeds part the rows of a text, and a line is a row as it is shown. -/
namespace TypeScriptRepl.Text

/-- A character of a line is one of the text, and no line feed. -/
theorem of_mem_splitLines {cs line l : List Char} {c : Char} (hl : l ∈ splitLines cs line)
    (hc : c ∈ l) : (c ∈ cs ∧ c ≠ '\n') ∨ c ∈ line := by
  fun_induction splitLines cs line with
  | case1 => cases hl
  | case2 =>
    rw [List.mem_singleton.1 hl, List.mem_reverse] at hc
    exact Or.inr hc
  | case3 rest line ih => grind
  | case4 => grind
  | case5 => grind

theorem of_mem_line {cs text : List Char} {n : Nat} (h : line? cs n = some text) {c : Char}
    (hc : c ∈ text) : c ∈ cs ∧ c ≠ '\n' := by
  cases n with
  | zero => cases h
  | succ n =>
    rcases of_mem_splitLines (List.mem_of_getElem? h) hc with h | h
    · exact h
    · cases h

def rows (s : String) : List (List Char) := s.toList.splitOn '\n'

theorem length_splitOn (cs : List Char) : (cs.splitOn '\n').length = cs.count '\n' + 1 := by
  induction cs with
  | nil => rfl
  | cons c cs ih =>
    rw [List.splitOn_cons_eq_if_modifyHead]
    by_cases hc : c = '\n' <;> simp [hc, ih]

/-- A row comes after as many rows as there are line feeds before it. -/
theorem getElem?_splitOn (before : List Char) {row : List Char} (h : '\n' ∉ row)
    (after : List Char) :
    ((before ++ '\n' :: (row ++ '\n' :: after)).splitOn '\n')[before.count '\n' + 1]? = some row := by
  have hlength := length_splitOn before
  rw [List.splitOn_append_cons_self, List.splitOn_append_cons_self_of_not_mem h,
    List.getElem?_append_right (Nat.le_of_eq hlength), hlength, Nat.sub_self]
  rfl

def withoutReturn (row : List Char) : List Char :=
  if row.getLast? = some '\r' then row.dropLast else row

def linesOfRows : List (List Char) → List (List Char)
  | [] => []
  | [row] => if row = [] then [] else [row]
  | row :: next :: rows => withoutReturn row :: linesOfRows (next :: rows)

theorem withoutReturn_concat (row : List Char) : withoutReturn (row ++ ['\r']) = row := by
  rw [withoutReturn, List.getLast?_concat, if_pos rfl, List.dropLast_concat]

theorem withoutReturn_of_ne {row : List Char} (h : row.getLast? ≠ some '\r') :
    withoutReturn row = row := if_neg h

/-- What does not end with a carriage return stays, whatever comes after it. -/
theorem withoutReturn_append {row : List Char} (h : row.getLast? ≠ some '\r') (tail : List Char) :
    withoutReturn (row ++ tail) = row ++ withoutReturn tail := by
  cases ht : tail with
  | nil =>
    rw [List.append_nil, withoutReturn_of_ne h]
    exact (List.append_nil row).symm
  | cons c cs =>
    have hne : c :: cs ≠ [] := List.cons_ne_nil c cs
    have hl : (row ++ c :: cs).getLast? = (c :: cs).getLast? := by
      rw [List.getLast?_append, List.getLast?_eq_some_getLast hne, Option.some_or]
    rw [withoutReturn, withoutReturn, hl]
    split
    · exact List.dropLast_append_of_ne_nil hne
    · rfl

theorem linesOfRows_cons (row : List Char) {rows : List (List Char)} (h : rows ≠ []) :
    linesOfRows (row :: rows) = withoutReturn row :: linesOfRows rows := by
  obtain ⟨next, rows, rfl⟩ := List.exists_cons_of_ne_nil h
  rfl

/-- By induction on the text; `line` holds what has been read of the first row, backwards. -/
theorem splitLines_eq (cs line : List Char) :
    splitLines cs line = linesOfRows ((cs.splitOn '\n').modifyHead (line.reverse ++ ·)) := by
  have hrows (cs : List Char) : (cs.splitOn '\n').modifyHead (([] : List Char).reverse ++ ·) =
      cs.splitOn '\n' := by
    cases cs.splitOn '\n' <;> rfl
  fun_induction splitLines cs line with
  | case1 => rfl
  | case2 line hline =>
    have hne : line.reverse ≠ [] := fun h => hline (List.reverse_eq_nil_iff.1 h)
    simp [linesOfRows, hne]
  | case3 rest line ih =>
    rw [List.splitOn_cons_eq_if_modifyHead, if_pos (by decide), List.modifyHead_cons,
      List.append_nil, linesOfRows_cons _ (List.splitOn_ne_nil _ _), List.reverse_cons,
      withoutReturn_concat, ih, hrows]
  | case4 rest line hline ih =>
    have hlast : line.reverse.getLast? ≠ some '\r' := by
      rw [List.getLast?_reverse]
      intro h
      obtain ⟨line', rfl⟩ := List.head?_eq_some_iff.1 h
      exact hline line' rfl
    rw [List.splitOn_cons_eq_if_modifyHead, if_pos (by decide), List.modifyHead_cons,
      List.append_nil, linesOfRows_cons _ (List.splitOn_ne_nil _ _), withoutReturn_of_ne hlast, ih,
      hrows]
  | case5 c rest line _ hc' ih =>
    have hc : (c == '\n') = false := beq_eq_false_iff_ne.2 hc'
    rw [List.splitOn_cons_eq_if_modifyHead, hc, if_neg Bool.false_ne_true, ih]
    cases rest.splitOn '\n' with
    | nil => rfl
    | cons row rows => simp

theorem lines_eq (cs : List Char) : lines cs = linesOfRows (cs.splitOn '\n') := by
  rw [lines, splitLines_eq]
  cases cs.splitOn '\n' <;> rfl

theorem getElem?_linesOfRows {rows : List (List Char)} {n : Nat} {row : List Char}
    (h : rows[n]? = some row) :
    (linesOfRows rows)[n]? =
      if n + 1 < rows.length then some (withoutReturn row) else if row = [] then none else some row := by
  induction rows generalizing n with
  | nil => cases h
  | cons first rows ih =>
    by_cases hr : rows = []
    · subst hr
      obtain ⟨rfl, rfl⟩ : n = 0 ∧ first = row := by
        cases n with
        | zero => exact ⟨rfl, Option.some.inj h⟩
        | succ n => cases h
      by_cases hf : first = [] <;> simp [linesOfRows, hf]
    · have hpos := List.length_pos_iff.2 hr
      rw [linesOfRows_cons first hr, List.length_cons]
      cases n with
      | zero =>
        rw [if_pos (by omega), ← Option.some.inj h]
        rfl
      | succ n =>
        rw [List.getElem?_cons_succ] at h
        rw [List.getElem?_cons_succ, ih h]
        simp only [Nat.add_lt_add_iff_right]

/-- The line of a number is the row of this number. -/
theorem line?_eq_of_row {cs row : List Char} {n : Nat} (h : (cs.splitOn '\n')[n]? = some row)
    (hne : row ≠ []) :
    line? cs (n + 1) =
      some (if n + 1 < (cs.splitOn '\n').length then withoutReturn row else row) := by
  rw [line?, lines_eq, getElem?_linesOfRows h, if_neg hne]
  split <;> rfl

theorem getElem?_zero_splitOn (cs : List Char) :
    (cs.splitOn '\n')[0]? = some (cs.takeWhile (· ≠ '\n')) := by
  induction cs with
  | nil => rfl
  | cons c cs ih =>
    rw [List.splitOn_cons_eq_if_modifyHead]
    by_cases hc : c = '\n'
    · simp [hc]
    · cases hs : cs.splitOn '\n' with
      | nil => exact absurd hs (List.splitOn_ne_nil _ _)
      | cons row rows =>
        rw [hs] at ih
        have hrow : row = cs.takeWhile (· ≠ '\n') := Option.some.inj ih
        simp [hc, hrow]

theorem newline_notMem_lastLine (cs : List Char) : '\n' ∉ lastLine cs := by
  intro h
  simpa using List.mem_rtakeWhile_imp h

/-- A text is its last line, or a line feed parts this from what comes before. -/
theorem lastLine_cases (cs : List Char) :
    lastLine cs = cs ∨ ∃ earlier, cs = earlier ++ '\n' :: lastLine cs := by
  have hcs : cs.rdropWhile (· ≠ '\n') ++ lastLine cs = cs := List.rdropWhile_append_rtakeWhile
  by_cases hd : cs.rdropWhile (· ≠ '\n') = []
  · rw [hd, List.nil_append] at hcs
    exact Or.inl hcs
  · have hlast : (cs.rdropWhile (· ≠ '\n')).getLast hd = '\n' := by
      by_contra h
      exact List.rdropWhile_last_not (· ≠ '\n') cs hd (decide_eq_true h)
    have hearlier := List.dropLast_append_getLast hd
    rw [hlast] at hearlier
    rw [← hearlier, List.append_assoc] at hcs
    exact Or.inr ⟨_, hcs.symm⟩

/-- The row of a place in a text: the end of what is before it, and the beginning of what is after. -/
theorem getElem?_splitOn_count (before after : List Char) :
    ((before ++ after).splitOn '\n')[before.count '\n']? =
      some (lastLine before ++ after.takeWhile (· ≠ '\n')) := by
  have hnot := newline_notMem_lastLine before
  have hrow : ((lastLine before ++ after).splitOn '\n')[0]? =
      some (lastLine before ++ after.takeWhile (· ≠ '\n')) := by
    rw [getElem?_zero_splitOn, List.takeWhile_append_of_pos]
    intro c hc
    have hn : c ≠ '\n' := fun h => hnot (h ▸ hc)
    simpa using hn
  have hcount : (lastLine before).count '\n' = 0 := List.count_eq_zero.2 hnot
  rcases lastLine_cases before with h | ⟨earlier, h⟩
  · rw [h] at hrow hcount
    rw [hcount, hrow, h]
  · have hsplit : before ++ after = earlier ++ '\n' :: (lastLine before ++ after) := by
      conv_lhs => rw [h]
      rw [List.append_assoc, List.cons_append]
    have hlength : (earlier.splitOn '\n').length = before.count '\n' := by
      conv_rhs => rw [h]
      rw [length_splitOn, List.count_append, List.count_cons_self, hcount]
    rw [hsplit, List.splitOn_append_cons_self, List.getElem?_append_right (Nat.le_of_eq hlength),
      hlength, Nat.sub_self, hrow]

end TypeScriptRepl.Text
