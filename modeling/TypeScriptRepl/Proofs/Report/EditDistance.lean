import Mathlib.Order.Bounds.Defs
import TypeScriptRepl.Report.EditDistance

/-! The distance of two words is the least number of edits that lead from one to the other. -/
namespace TypeScriptRepl.Report

/-- One insertion, deletion or replacement of a character. -/
inductive Edit : List Char → List Char → Prop
  | insert (before after : List Char) (c : Char) : Edit (before ++ after) (before ++ c :: after)
  | delete (before after : List Char) (c : Char) : Edit (before ++ c :: after) (before ++ after)
  | replace (before after : List Char) (c d : Char) :
      Edit (before ++ c :: after) (before ++ d :: after)

inductive Edits : Nat → List Char → List Char → Prop
  | none (a : List Char) : Edits 0 a a
  | more {n : Nat} {a b c : List Char} (h : Edits n a b) (e : Edit b c) : Edits (n + 1) a c

namespace Edit

variable {a b : List Char}

theorem cons (h : Edit a b) (c : Char) : Edit (c :: a) (c :: b) := by
  cases h with
  | insert before after d => exact insert (c :: before) after d
  | delete before after d => exact delete (c :: before) after d
  | replace before after d e => exact replace (c :: before) after d e

theorem reverse (h : Edit a b) : Edit a.reverse b.reverse := by
  cases h with
  | insert before after d => simpa using insert after.reverse before.reverse d
  | delete before after d => simpa using delete after.reverse before.reverse d
  | replace before after d e => simpa using replace after.reverse before.reverse d e

theorem symm (h : Edit a b) : Edit b a := by
  cases h with
  | insert before after d => exact delete before after d
  | delete before after d => exact insert before after d
  | replace before after d e => exact replace before after e d

end Edit

namespace Edits

variable {n m : Nat} {a b c : List Char}

theorem cons (h : Edits n a b) (c : Char) : Edits n (c :: a) (c :: b) := by
  induction h with
  | none a => exact none (c :: a)
  | more _ e ih => exact ih.more (e.cons c)

theorem reverse (h : Edits n a b) : Edits n a.reverse b.reverse := by
  induction h with
  | none a => exact none a.reverse
  | more _ e ih => exact ih.more e.reverse

theorem trans (h : Edits n a b) (h' : Edits m b c) : Edits (n + m) a c := by
  induction h' with
  | none b => exact h
  | more _ e ih => exact (ih h).more e

theorem symm (h : Edits n a b) : Edits n b a := by
  induction h with
  | none a => exact none a
  | @more n a b c h e ih =>
    rw [Nat.add_comm]
    exact ((none c).more e.symm).trans ih

theorem iff_reverse : Edits n a.reverse b.reverse ↔ Edits n a b := by
  refine ⟨fun h => ?_, reverse⟩
  have h' := h.reverse
  rwa [List.reverse_reverse, List.reverse_reverse] at h'

theorem eq_of_zero (h : Edits 0 a b) : a = b := by
  cases h
  rfl

end Edits

/-- The distance of two words by their first characters: one word loses or gains one, or both go on
from where these meet. -/
def distance : List Char → List Char → Nat
  | [], b => b.length
  | a, [] => a.length
  | x :: a, y :: b =>
    min (min (distance a (y :: b) + 1) (distance (x :: a) b + 1))
      (distance a b + if x = y then 0 else 1)
termination_by a b => a.length + b.length

theorem distance_nil_left (b : List Char) : distance [] b = b.length := by
  rw [distance]

theorem distance_nil_right (a : List Char) : distance a [] = a.length := by
  cases a with
  | nil => rw [distance]
  | cons x a =>
    rw [distance]
    simp

theorem distance_cons_cons (x y : Char) (a b : List Char) :
    distance (x :: a) (y :: b) =
      min (min (distance a (y :: b) + 1) (distance (x :: a) b + 1))
        (distance a b + if x = y then 0 else 1) := by
  rw [distance]

theorem distance_self (a : List Char) : distance a a = 0 := by
  induction a with
  | nil => exact distance_nil_left []
  | cons x a ih =>
    rw [distance_cons_cons, ih, if_pos rfl]
    exact Nat.min_zero _

/-! One edit of the second word changes the distance by one at most: by induction on what stands
before the place of the edit. -/

theorem distance_insert_le (a b : List Char) (y : Char) : distance a (y :: b) ≤ distance a b + 1 := by
  cases a with
  | nil => exact Nat.le_of_eq (by rw [distance_nil_left, distance_nil_left, List.length_cons])
  | cons x a =>
    rw [distance_cons_cons]
    omega

theorem distance_delete_le (a b : List Char) (y : Char) : distance a b ≤ distance a (y :: b) + 1 := by
  induction a with
  | nil =>
    rw [distance_nil_left, distance_nil_left, List.length_cons]
    omega
  | cons x a ih =>
    have hx : distance (x :: a) b ≤ distance a b + 1 := by
      cases b with
      | nil => exact Nat.le_of_eq (by rw [distance_nil_right, distance_nil_right, List.length_cons])
      | cons z b =>
        rw [distance_cons_cons]
        omega
    rw [distance_cons_cons]
    omega

theorem distance_replace_le (a b : List Char) (y z : Char) :
    distance a (z :: b) ≤ distance a (y :: b) + 1 := by
  induction a with
  | nil =>
    rw [distance_nil_left, distance_nil_left, List.length_cons, List.length_cons]
    omega
  | cons x a ih =>
    rw [distance_cons_cons, distance_cons_cons]
    have hz : (if x = z then 0 else 1) ≤ 1 := by split <;> omega
    omega

theorem distance_cons_le {b c : List Char} (h : ∀ a, distance a c ≤ distance a b + 1) (y : Char)
    (a : List Char) : distance a (y :: c) ≤ distance a (y :: b) + 1 := by
  induction a with
  | nil =>
    have hl := h []
    rw [distance_nil_left, distance_nil_left] at hl ⊢
    rw [List.length_cons, List.length_cons]
    omega
  | cons x a ih =>
    have h1 := h (x :: a)
    have h2 := h a
    rw [distance_cons_cons, distance_cons_cons]
    omega

theorem distance_le_of_edit {b c : List Char} (h : Edit b c) (a : List Char) :
    distance a c ≤ distance a b + 1 := by
  have hcons {b c : List Char} (before : List Char) (h : ∀ a, distance a c ≤ distance a b + 1) :
      ∀ a, distance a (before ++ c) ≤ distance a (before ++ b) + 1 := by
    induction before with
    | nil => exact h
    | cons y before ih => exact distance_cons_le ih y
  cases h with
  | insert before after y => exact hcons before (fun a => distance_insert_le a after y) a
  | delete before after y => exact hcons before (fun a => distance_delete_le a after y) a
  | replace before after y z => exact hcons before (fun a => distance_replace_le a after y z) a

/-- No fewer edits lead from one word to the other. -/
theorem distance_le_of_edits {n : Nat} {a b : List Char} (h : Edits n a b) : distance a b ≤ n := by
  induction h with
  | none a => exact Nat.le_of_eq (distance_self a)
  | @more n a b c _ e ih => exact Nat.le_trans (distance_le_of_edit e a) (Nat.succ_le_succ ih)

/-- As many edits as the distance says lead from one word to the other. -/
theorem edits_distance (a b : List Char) : Edits (distance a b) a b := by
  fun_induction distance a b with
  | case1 b =>
    induction b with
    | nil => exact .none []
    | cons y b ih => exact ih.more (.insert [] b y)
  | case2 a h =>
    clear h
    induction a with
    | nil => exact .none []
    | cons x a ih => exact (ih.cons x).more (.delete [] [] x)
  | case3 x a y b hdelete hinsert hreplace =>
    have hd : Edits (distance a (y :: b) + 1) (x :: a) (y :: b) := by
      rw [Nat.add_comm]
      exact ((Edits.none _).more (.delete [] a x)).trans hdelete
    have hi : Edits (distance (x :: a) b + 1) (x :: a) (y :: b) := hinsert.more (.insert [] b y)
    have hr : Edits (distance a b + if x = y then 0 else 1) (x :: a) (y :: b) := by
      by_cases hxy : x = y
      · rw [if_pos hxy, hxy]
        exact hreplace.cons y
      · rw [if_neg hxy]
        exact (hreplace.cons x).more (.replace [] b x y)
    rcases Nat.le_total (min (distance a (y :: b) + 1) (distance (x :: a) b + 1))
      (distance a b + if x = y then 0 else 1) with h | h
    · rw [Nat.min_eq_left h]
      rcases Nat.le_total (distance a (y :: b) + 1) (distance (x :: a) b + 1) with h | h
      · rwa [Nat.min_eq_left h]
      · rwa [Nat.min_eq_right h]
    · rwa [Nat.min_eq_right h]

namespace Rows

/-- A row of the table: its entries are the distances from `a` to the beginnings of `b`. -/
def Holds (row : Array Nat) (a b : List Char) : Prop :=
  ∀ p, p <+: b → row.getD p.length 0 = distance a.reverse p.reverse

theorem Holds.of_append {row : Array Nat} {a b c : List Char} (h : Holds row a (b ++ c)) :
    Holds row a b :=
  fun p hp => h p (hp.trans (List.prefix_append b c))

private theorem getD_setIfInBounds_self {row : Array Nat} {i : Nat} (h : i < row.size) (n : Nat) :
    (row.setIfInBounds i n).getD i 0 = n := by
  simp [Array.getD_eq_getD_getElem?, h]

private theorem getD_setIfInBounds_of_ne (row : Array Nat) {i j : Nat} (h : i ≠ j) (n : Nat) :
    (row.setIfInBounds i n).getD j 0 = row.getD j 0 := by
  rw [Array.getD_eq_getD_getElem?, Array.getD_eq_getD_getElem?, Array.getElem?_setIfInBounds_ne h]

variable {r : Rows} {a b done : List Char} {x y : Char}

/-- An entry is filled in from the three before it; those that were filled in before stay. -/
theorem holds_fill (hp : Holds r.previous a (done ++ [y])) (hc : Holds r.current (a ++ [x]) done)
    (hs : done.length + 1 < r.current.size) :
    Holds (r.fill x y done.length).current (a ++ [x]) (done ++ [y]) := by
  have hup := hp (done ++ [y]) (List.prefix_refl _)
  have hdiagonal := hp done (List.prefix_append done [y])
  have hleft := hc done (List.prefix_refl done)
  rw [List.length_append, List.length_singleton, List.reverse_append, List.reverse_singleton,
    List.singleton_append] at hup
  rw [List.reverse_append, List.reverse_singleton, List.singleton_append] at hleft
  intro p h
  rcases List.prefix_concat_iff.1 h with rfl | h
  · rw [List.length_append, List.length_singleton, fill, getD_setIfInBounds_self hs, hup, hdiagonal,
      hleft, List.reverse_append, List.reverse_append, List.reverse_singleton,
      List.reverse_singleton, List.singleton_append, List.singleton_append, distance_cons_cons]
  · have hlt : done.length + 1 ≠ p.length := by
      have := h.length_le
      omega
    rw [fill, getD_setIfInBounds_of_ne _ hlt]
    exact hc p h

/-- The inner loop: what is left of the current row is filled in, and the other row stays. -/
theorem foldl_fill (done after : List Char) (hp : Holds r.previous a (done ++ after))
    (hc : Holds r.current (a ++ [x]) done) (hs : (done ++ after).length < r.current.size) :
    let filled := (after.zipIdx done.length).foldl (fun r (c, j) => r.fill x c j) r
    Holds filled.current (a ++ [x]) (done ++ after) ∧ filled.previous = r.previous ∧
      filled.current.size = r.current.size := by
  induction after generalizing done r with
  | nil =>
    rw [List.append_nil]
    exact ⟨hc, rfl, rfl⟩
  | cons y after ih =>
    have hassoc : done ++ y :: after = done ++ [y] ++ after := by simp
    rw [hassoc] at hp hs ⊢
    have hf : Holds (r.fill x y done.length).current (a ++ [x]) (done ++ [y]) := by
      refine holds_fill hp.of_append hc ?_
      rw [List.length_append, List.length_append, List.length_singleton] at hs
      omega
    have hsize : (r.fill x y done.length).current.size = r.current.size := by
      rw [fill, Array.size_setIfInBounds]
    obtain ⟨h1, h2, h3⟩ := ih (done ++ [y]) (r := r.fill x y done.length) hp hf (hsize ▸ hs)
    rw [List.length_append, List.length_singleton] at h1 h2 h3
    exact ⟨h1, h2, h3.trans hsize⟩

/-- Between two rounds: the complete row is the one of the characters that have been read, and both
rows are long enough. Nothing is said of what the other row holds. -/
structure After (r : Rows) (a b : List Char) : Prop where
  holds : Holds r.previous a b
  previous : b.length < r.previous.size
  current : b.length < r.current.size

theorem after_start (b : List Char) : (start b.length).After [] b := by
  constructor
  · intro p hp
    have hl := hp.length_le
    rw [List.reverse_nil, distance_nil_left, List.length_reverse, start,
      Array.getD_eq_getD_getElem?, Array.getElem?_range, if_pos (by omega), Option.getD_some]
  · rw [start, Array.size_range]
    exact Nat.lt_succ_self _
  · rw [start, Array.size_replicate]
    exact Nat.lt_succ_self _

theorem After.next (h : r.After a b) (x : Char) : (r.next b x a.length).After (a ++ [x]) b := by
  have hfirst : Holds (r.current.setIfInBounds 0 (a.length + 1)) (a ++ [x]) [] := by
    intro p hp
    have hpos : 0 < r.current.size := Nat.zero_lt_of_lt h.current
    rw [List.prefix_nil.1 hp, List.length_nil, getD_setIfInBounds_self hpos, List.reverse_nil,
      distance_nil_right, List.length_reverse, List.length_append, List.length_singleton]
  obtain ⟨hc, hp, hs⟩ := foldl_fill (r := ⟨r.previous, r.current.setIfInBounds 0 (a.length + 1)⟩)
    [] b h.holds hfirst (by rw [Array.size_setIfInBounds]; exact h.current)
  rw [Array.size_setIfInBounds] at hs
  -- the rows have changed places
  exact ⟨hc, Nat.lt_of_lt_of_eq h.current hs.symm,
    Nat.lt_of_lt_of_eq h.previous (congrArg Array.size hp).symm⟩

/-- The outer loop. -/
theorem After.foldl_next (rest : List Char) (h : r.After a b) :
    ((rest.zipIdx a.length).foldl (fun r (c, i) => r.next b c i) r).After (a ++ rest) b := by
  induction rest generalizing a r with
  | nil => rwa [List.append_nil]
  | cons x rest ih =>
    have hn := ih (h.next x)
    rwa [List.length_append, List.length_singleton, List.append_assoc] at hn

end Rows

theorem editDistance_eq_distance (a b : List Char) :
    editDistance a b = distance a.reverse b.reverse := by
  unfold editDistance
  split
  case isTrue ha =>
    rw [List.isEmpty_iff.1 ha, List.reverse_nil, distance_nil_left, List.length_reverse]
  case isFalse =>
    split
    case isTrue hb =>
      rw [List.isEmpty_iff.1 hb, List.reverse_nil, distance_nil_right, List.length_reverse]
    case isFalse => exact ((Rows.after_start b).foldl_next a).holds b (List.prefix_refl b)

theorem isLeast_editDistance (a b : List Char) : IsLeast {n | Edits n a b} (editDistance a b) := by
  rw [editDistance_eq_distance]
  constructor
  · exact Edits.iff_reverse.1 (edits_distance a.reverse b.reverse)
  · intro n h
    exact distance_le_of_edits (Edits.reverse h)

/-- The distance of two words is the least number of edits that lead from one to the other, and it is
what the recursion on their beginnings says. So it is a metric. -/
theorem editDistance_is_levenshtein (a b : List Char) :
    IsLeast {n | Edits n a b} (editDistance a b) ∧
      (editDistance [] b = b.length ∧ editDistance a [] = a.length ∧
        ∀ x y, editDistance (a ++ [x]) (b ++ [y]) =
          min (min (editDistance a (b ++ [y]) + 1) (editDistance (a ++ [x]) b + 1))
            (editDistance a b + if x = y then 0 else 1)) ∧
      (editDistance a b = 0 ↔ a = b) ∧
      editDistance a b = editDistance b a ∧
      ∀ c, editDistance a c ≤ editDistance a b + editDistance b c := by
  have hab := isLeast_editDistance a b
  have hba := isLeast_editDistance b a
  refine ⟨hab, ⟨rfl, ?_, fun x y => ?_⟩, ⟨fun h => ?_, ?_⟩, ?_, fun c => ?_⟩
  · rw [editDistance_eq_distance, List.reverse_nil, distance_nil_right, List.length_reverse]
  · simp only [editDistance_eq_distance, List.reverse_append, List.reverse_singleton,
      List.singleton_append]
    exact distance_cons_cons x y a.reverse b.reverse
  · exact Edits.eq_of_zero (h ▸ hab.1)
  · rintro rfl
    rw [editDistance_eq_distance, distance_self]
  · exact Nat.le_antisymm (hab.2 (Edits.symm hba.1)) (hba.2 (Edits.symm hab.1))
  · have hbc := isLeast_editDistance b c
    exact (isLeast_editDistance a c).2 (Edits.trans hab.1 hbc.1)

/-- A word in which two characters have changed places takes two edits. -/
example : editDistance "from".toList "form".toList = 2 := by decide

end TypeScriptRepl.Report
