import Mathlib

/-! Where a word stands in a text that is put together from pieces. -/
namespace TypeScriptRepl.Text

def OccursAt (word cs : List Char) (i : Nat) : Prop := word <+: cs.drop i

variable {word x y : List Char} {c : Char}

theorem infix_iff_exists_occursAt {cs : List Char} : word <:+: cs ↔ ∃ i, OccursAt word cs i := by
  rw [List.infix_iff_prefix_suffix]
  constructor
  · rintro ⟨t, hw, ht⟩
    rw [List.suffix_iff_eq_drop.1 ht] at hw
    exact ⟨_, hw⟩
  · rintro ⟨i, hw⟩
    exact ⟨cs.drop i, hw, List.drop_suffix i cs⟩

theorem prefix_append_cons_iff (hc : c ∉ word) : word <+: x ++ c :: y ↔ word <+: x := by
  constructor
  · intro h
    rcases List.prefix_or_prefix_of_prefix h (List.prefix_append x (c :: y)) with hw | ⟨t, rfl⟩
    · exact hw
    · rw [List.prefix_append_right_inj] at h
      rcases List.prefix_cons_iff.1 h with rfl | ⟨t, rfl, -⟩
      · rw [List.append_nil]
      · exact absurd (List.mem_append_right x (List.mem_cons_self ..)) hc
  · intro h
    exact h.trans (List.prefix_append x (c :: y))

theorem occursAt_append_cons_iff (hc : c ∉ word) (hw : word ≠ []) {i : Nat} :
    OccursAt word (x ++ c :: y) i ↔
      OccursAt word x i ∨ ∃ j, i = x.length + 1 + j ∧ OccursAt word y j := by
  unfold OccursAt
  rcases Nat.lt_or_ge x.length i with hi | hi
  · obtain ⟨j, rfl⟩ := Nat.exists_eq_add_of_le (Nat.succ_le_of_lt hi)
    have hx : x.drop (x.length + 1 + j) = [] := List.drop_eq_nil_of_le (by omega)
    have hy : (x ++ c :: y).drop (x.length + 1 + j) = y.drop j := by
      rw [Nat.add_assoc, List.drop_append, List.drop_eq_nil_of_le (by omega),
        Nat.add_sub_cancel_left, Nat.add_comm 1 j, List.drop_succ_cons, List.nil_append]
    rw [hx, hy, List.prefix_nil, or_iff_right hw]
    constructor
    · intro h
      exact ⟨j, rfl, h⟩
    · rintro ⟨k, hk, h⟩
      rwa [Nat.add_left_cancel hk]
  · rw [List.drop_append_of_le_length hi, prefix_append_cons_iff hc, or_iff_left]
    rintro ⟨j, hj, -⟩
    omega

/-- A character that is not in a word parts the text into one before it and one after it. -/
theorem infix_append_cons_iff (hc : c ∉ word) (hw : word ≠ []) :
    word <:+: x ++ c :: y ↔ word <:+: x ∨ word <:+: y := by
  simp only [infix_iff_exists_occursAt, occursAt_append_cons_iff hc hw, exists_or]
  apply or_congr Iff.rfl
  constructor
  · rintro ⟨i, j, -, h⟩
    exact ⟨j, h⟩
  · rintro ⟨j, h⟩
    exact ⟨_, j, rfl, h⟩

theorem occursAt_self_iff (hw : word ≠ []) {i : Nat} : OccursAt word word i ↔ i = 0 := by
  have hpos := List.length_pos_iff.2 hw
  constructor
  · intro h
    have hle := h.length_le
    rw [List.length_drop] at hle
    omega
  · rintro rfl
    exact List.prefix_rfl

/-- A word that stands alone between two characters which are not in it stands nowhere else. -/
theorem occursAt_parted_iff (hc : c ∉ word) (hw : word ≠ []) (hx : ¬word <:+: x) (hy : ¬word <:+: y)
    {i : Nat} : OccursAt word (x ++ c :: (word ++ c :: y)) i ↔ i = x.length + 1 := by
  have hx (i : Nat) : ¬OccursAt word x i := fun h => hx (infix_iff_exists_occursAt.2 ⟨i, h⟩)
  have hy (i : Nat) : ¬OccursAt word y i := fun h => hy (infix_iff_exists_occursAt.2 ⟨i, h⟩)
  simp only [occursAt_append_cons_iff hc hw, occursAt_self_iff hw, hx, hy, false_or, and_false,
    exists_false, or_false, exists_eq_right, Nat.add_zero]

/-- A part of a text without the word, between two characters which are not in the word. -/
def Encloses (word t : List Char) : Prop :=
  ∃ c inside d, t = c :: inside ++ [d] ∧ c ∉ word ∧ d ∉ word ∧ ¬word <:+: inside

/-- A word does not go over the end of an enclosed part. -/
theorem Encloses.infix_append_iff {t : List Char} (ht : Encloses word t) (hw : word ≠ []) :
    word <:+: x ++ (t ++ y) ↔ word <:+: x ∨ word <:+: y := by
  obtain ⟨c, inside, d, rfl, hc, hd, hinside⟩ := ht
  rw [List.cons_append, List.cons_append, List.append_assoc, infix_append_cons_iff hc hw,
    List.singleton_append, infix_append_cons_iff hd hw, or_iff_right hinside]

/-- A word stands nowhere in a part that its first character is not in. -/
theorem infix_of_notMem_append {xs : List Char} {a : Char} (ha : a ∉ xs)
    (h : a :: word <:+: xs ++ y) : a :: word <:+: y := by
  induction xs with
  | nil => exact h
  | cons b xs ih =>
    rw [List.mem_cons, not_or] at ha
    rcases List.infix_cons_iff.1 h with h | h
    · exact absurd (List.cons_prefix_cons.1 h).1 ha.1
    · exact ih ha.2 h

end TypeScriptRepl.Text
