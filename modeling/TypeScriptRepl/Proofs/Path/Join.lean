import TypeScriptRepl.Path.Basic

/-! How a path is made up that starts from another one: its segments, its beginning and its end. -/
namespace TypeScriptRepl.Path

theorem split_eq (bytes segment : List UInt8) :
    split bytes segment = List.splitOnPPrepend (· == slash) bytes segment := by
  induction bytes generalizing segment with
  | nil => rfl
  | cons b bytes ih =>
    rw [split, List.splitOnPPrepend_cons_eq_if, ih, ih]
    by_cases hb : b = slash <;> simp [hb]

theorem segments_eq (bytes : List UInt8) : segments bytes = bytes.splitOn slash := by
  rw [segments, split_eq, List.splitOn_eq_splitOnP, List.splitOnP_eq_splitOnPPrepend]

theorem intercalate_segments (bytes : List UInt8) : [slash].intercalate (segments bytes) = bytes := by
  rw [segments_eq, List.intercalate_splitOn]

theorem slash_notMem_of_mem_split {bytes segment s : List UInt8} (hn : slash ∉ segment)
    (h : s ∈ split bytes segment) : slash ∉ s := by
  induction bytes generalizing segment with
  | nil =>
    rw [split, List.mem_singleton] at h
    rwa [h, List.mem_reverse]
  | cons b bytes ih =>
    rw [split] at h
    by_cases hb : b = slash
    · rw [if_pos hb] at h
      rcases List.mem_cons.1 h with rfl | h
      · rwa [List.mem_reverse]
      · exact ih List.not_mem_nil h
    · rw [if_neg hb] at h
      exact ih (by simp [Ne.symm hb, hn]) h

theorem segments_append (as bs : List UInt8) :
    segments (as ++ slash :: bs) = segments as ++ segments bs := by
  rw [segments_eq, segments_eq, segments_eq, List.splitOn_append_cons_self]

variable {p q : Path}

theorem exists_bytes_join (p : Path) (hq : q.isAbsolute = false) :
    ∃ between, (p.join q).bytes = p.bytes ++ (between ++ q.bytes) := by
  unfold join
  rw [hq, if_neg Bool.false_ne_true]
  split
  · exact ⟨[], rfl⟩
  · exact ⟨[slash], rfl⟩

theorem isAbsolute_join_of_not_empty (hp : p.isEmpty = false) (hq : q.isAbsolute = false) :
    (p.join q).isAbsolute = p.isAbsolute := by
  have hne : p.bytes ≠ [] := by rwa [isEmpty, List.isEmpty_eq_false_iff] at hp
  obtain ⟨b, bytes, hb⟩ := List.exists_cons_of_ne_nil hne
  obtain ⟨between, hj⟩ := exists_bytes_join p hq
  rw [isAbsolute, isAbsolute, hj, hb]
  rfl

theorem isAbsolute_join (hp : p.isAbsolute = true) (q : Path) : (p.join q).isAbsolute = true := by
  cases hq : q.isAbsolute with
  | true =>
    unfold join
    rw [hq, if_pos rfl]
    exact hq
  | false =>
    have hne : p.isEmpty = false := by
      rw [isEmpty, List.isEmpty_eq_false_iff]
      intro hb
      rw [isAbsolute, hb] at hp
      cases hp
    rw [isAbsolute_join_of_not_empty hne hq, hp]

theorem getLast?_join (p : Path) {b : UInt8} (h : q.bytes.getLast? = some b) :
    (p.join q).bytes.getLast? = some b := by
  cases hq : q.isAbsolute with
  | true =>
    unfold join
    rw [hq, if_pos rfl]
    exact h
  | false =>
    obtain ⟨between, hj⟩ := exists_bytes_join p hq
    rw [hj, List.getLast?_append, List.getLast?_append, h, Option.some_or, Option.some_or]

end TypeScriptRepl.Path
