import TypeScriptRepl.Proofs.Path.Join

/-! Normal paths, and how a path is made one. -/
namespace TypeScriptRepl.Path

/-- Enters a segment after others, the last one first. Double dots leave the last one again; at the
root they change nothing. -/
def enter (absolute : Bool) (entered : List (List UInt8)) (s : List UInt8) : List (List UInt8) :=
  if s = [] ∨ s = [dot] then entered
  else if s = [dot, dot] then
    match entered with
    | [] => if absolute then [] else [s]
    | t :: before => if t = [dot, dot] then s :: entered else before
  else s :: entered

def normalSegments (p : Path) : List (List UInt8) :=
  ((segments p.bytes).foldl (enter p.isAbsolute) []).reverse

def endsInSlash (p : Path) : Bool := p.bytes.getLast? = some slash

def ofSegments (lead tail : Bool) (ss : List (List UInt8)) : Path :=
  ⟨(if lead then [slash] else []) ++ [slash].intercalate ss ++ if tail then [slash] else []⟩

/-- The path, made normal. A slash at its end stays. -/
def normalize (p : Path) : Path :=
  if p.normalSegments ≠ [] then ofSegments p.isAbsolute p.endsInSlash p.normalSegments
  else if p.isAbsolute then ⟨[slash]⟩
  else ofSegments false p.endsInSlash [[dot]]

section

variable {absolute : Bool} {entered : List (List UInt8)}

/-- A segment is left out, takes the last one along, or is the last one then. -/
theorem enter_cases (absolute : Bool) (entered : List (List UInt8)) (s : List UInt8) :
    enter absolute entered s = entered ∨ (∃ t, entered = t :: enter absolute entered s) ∨
      (enter absolute entered s = s :: entered ∧ s ≠ []) := by
  unfold enter
  by_cases h1 : s = [] ∨ s = [dot]
  · exact Or.inl (if_pos h1)
  · have hs : s ≠ [] := fun h => h1 (Or.inl h)
    rw [if_neg h1]
    by_cases h2 : s = [dot, dot]
    · rw [if_pos h2]
      cases entered with
      | nil => cases absolute <;> simp [hs]
      | cons t before =>
        by_cases ht : t = [dot, dot]
        · simp [ht, hs]
        · simp [ht]
    · rw [if_neg h2]
      exact Or.inr (Or.inr ⟨rfl, hs⟩)

def IsEntered (absolute : Bool) : List (List UInt8) → Prop
  | [] => True
  | s :: before => enter absolute before s = s :: before ∧ IsEntered absolute before

theorem IsEntered.enter (h : IsEntered absolute entered) (s : List UInt8) :
    IsEntered absolute (enter absolute entered s) := by
  rcases enter_cases absolute entered s with he | ⟨t, he⟩ | ⟨he, -⟩
  · rwa [he]
  · rw [he] at h
    exact h.2
  · rw [he]
    exact ⟨he, h⟩

theorem IsEntered.foldl (ss : List (List UInt8)) (h : IsEntered absolute entered) :
    IsEntered absolute (ss.foldl (Path.enter absolute) entered) := by
  induction ss generalizing entered with
  | nil => exact h
  | cons s ss ih => exact ih (h.enter s)

/-- Segments that have been entered are entered again as they are. -/
theorem IsEntered.foldl_reverse (h : IsEntered absolute entered) :
    entered.reverse.foldl (Path.enter absolute) [] = entered := by
  induction entered with
  | nil => rfl
  | cons s before ih =>
    rw [List.reverse_cons, List.foldl_append, ih h.2]
    exact h.1

theorem mem_foldl_enter {ss : List (List UInt8)} {s : List UInt8}
    (h : s ∈ ss.foldl (enter absolute) entered) : s ∈ entered ∨ (s ∈ ss ∧ s ≠ []) := by
  induction ss generalizing entered with
  | nil => exact Or.inl h
  | cons t ss ih =>
    rcases ih h with h | ⟨h, hs⟩
    · rcases enter_cases absolute entered t with he | ⟨u, he⟩ | ⟨he, ht⟩
      · rw [he] at h
        exact Or.inl h
      · left
        rw [he]
        exact List.mem_cons_of_mem _ h
      · rw [he] at h
        rcases List.mem_cons.1 h with rfl | h
        · exact Or.inr ⟨List.mem_cons_self, ht⟩
        · exact Or.inl h
    · exact Or.inr ⟨List.mem_cons_of_mem _ h, hs⟩

theorem foldl_enter_blank (absolute : Bool) (entered : List (List UInt8)) (b : Bool) :
    (if b then [[]] else []).foldl (enter absolute) entered = entered := by
  cases b
  · rfl
  · simp [enter]

end

theorem ne_nil_of_mem_normalSegments {p : Path} {s : List UInt8} (h : s ∈ p.normalSegments) :
    s ≠ [] ∧ slash ∉ s := by
  rcases mem_foldl_enter (List.mem_reverse.1 h) with h | ⟨h, hs⟩
  · cases h
  · exact ⟨hs, slash_notMem_of_mem_split List.not_mem_nil h⟩

section

variable {ss : List (List UInt8)} (hne : ss ≠ []) (h : ∀ s ∈ ss, s ≠ [] ∧ slash ∉ s)

include hne h

theorem segments_ofSegments (lead tail : Bool) :
    segments (ofSegments lead tail ss).bytes =
      (if lead then [[]] else []) ++ ss ++ if tail then [[]] else [] := by
  have hs : segments ([slash].intercalate ss) = ss := by
    rw [segments_eq]
    exact List.splitOn_intercalate slash (fun l hl => (h l hl).2) hne
  have ht : segments ([slash].intercalate ss ++ if tail then [slash] else []) =
      ss ++ if tail then [[]] else [] := by
    cases tail
    · simpa using hs
    · show segments (_ ++ slash :: []) = ss ++ [[]]
      rw [segments_append, hs]
      rfl
  cases lead
  · simpa [ofSegments] using ht
  · show segments ([] ++ slash :: ([slash].intercalate ss ++ _)) = [[]] ++ ss ++ _
    rw [segments_append, ht, List.append_assoc]
    rfl

theorem intercalate_ne_nil : [slash].intercalate ss ≠ [] := by
  obtain ⟨s, ss, rfl⟩ := List.exists_cons_of_ne_nil hne
  have hs := (h s List.mem_cons_self).1
  cases ss with
  | nil => simpa using hs
  | cons t ts => simp [List.intercalate_cons_cons, hs]

theorem isAbsolute_ofSegments (lead tail : Bool) : (ofSegments lead tail ss).isAbsolute = lead := by
  cases lead
  · obtain ⟨s, ss, rfl⟩ := List.exists_cons_of_ne_nil hne
    obtain ⟨hs, hn⟩ := h s List.mem_cons_self
    obtain ⟨b, s, rfl⟩ := List.exists_cons_of_ne_nil hs
    have hb : b ≠ slash := fun hb => hn (hb ▸ List.mem_cons_self)
    have hd : (ofSegments false tail ((b :: s) :: ss)).bytes.head? = some b := by
      cases ss <;> rfl
    rw [isAbsolute, hd]
    simpa using hb
  · simp [ofSegments, isAbsolute]

theorem getLast?_intercalate : ([slash].intercalate ss).getLast? ≠ some slash := by
  obtain ⟨s, ss, rfl⟩ := List.exists_cons_of_ne_nil hne
  clear hne
  induction ss generalizing s with
  | nil =>
    intro hl
    rw [List.intercalate_singleton] at hl
    exact (h s List.mem_cons_self).2 (List.mem_of_getLast? hl)
  | cons t ts ih =>
    have ht : ∀ s ∈ t :: ts, s ≠ [] ∧ slash ∉ s := fun s hs => h s (List.mem_cons_of_mem _ hs)
    have hn := intercalate_ne_nil (List.cons_ne_nil t ts) ht
    rw [List.intercalate_cons_cons, List.getLast?_append, List.getLast?_eq_some_getLast hn,
      Option.some_or, ← List.getLast?_eq_some_getLast hn]
    exact ih t ht

theorem endsInSlash_ofSegments (lead tail : Bool) :
    (ofSegments lead tail ss).endsInSlash = tail := by
  cases tail
  · have hn := intercalate_ne_nil hne h
    have hl := getLast?_intercalate hne h
    rw [endsInSlash, ofSegments, if_neg Bool.false_ne_true, List.append_nil, List.getLast?_append,
      List.getLast?_eq_some_getLast hn, Option.some_or, ← List.getLast?_eq_some_getLast hn]
    exact decide_eq_false hl
  · simp [endsInSlash, ofSegments]

end

theorem normalSegments_eq (p : Path) {lead tail : Bool} {ss : List (List UInt8)}
    (hs : segments p.bytes = (if lead then [[]] else []) ++ ss ++ if tail then [[]] else []) :
    p.normalSegments = (ss.foldl (enter p.isAbsolute) []).reverse := by
  rw [normalSegments, hs, List.foldl_append, List.foldl_append, foldl_enter_blank,
    foldl_enter_blank]

/-- A path is made normal once and for all. -/
theorem normalize_normalize (p : Path) : p.normalize.normalize = p.normalize := by
  by_cases hn : p.normalSegments = []
  · have hp : p.normalize =
        if p.isAbsolute then ⟨[slash]⟩ else ofSegments false p.endsInSlash [[dot]] := by
      rw [normalize, if_neg (not_not_intro hn)]
    rw [hp]
    cases p.isAbsolute
    · cases p.endsInSlash <;> rfl
    · rfl
  · have hss : ∀ s ∈ p.normalSegments, s ≠ [] ∧ slash ∉ s := fun s => ne_nil_of_mem_normalSegments
    have hp : p.normalize = ofSegments p.isAbsolute p.endsInSlash p.normalSegments := by
      rw [normalize, if_pos hn]
    have ha := isAbsolute_ofSegments hn hss p.isAbsolute p.endsInSlash
    have he := endsInSlash_ofSegments hn hss p.isAbsolute p.endsInSlash
    have hs := normalSegments_eq _ (segments_ofSegments hn hss p.isAbsolute p.endsInSlash)
    have hi : IsEntered p.isAbsolute ((segments p.bytes).foldl (enter p.isAbsolute) []) :=
      IsEntered.foldl _ trivial
    have hr : (p.normalSegments.foldl (enter p.isAbsolute) []).reverse = p.normalSegments := by
      rw [normalSegments, hi.foldl_reverse]
    rw [ha, hr] at hs
    rw [hp, normalize, hs, if_pos hn, ha, he]

theorem isAbsolute_normalize (p : Path) : p.normalize.isAbsolute = p.isAbsolute := by
  by_cases hn : p.normalSegments = []
  · rw [normalize, if_neg (not_not_intro hn)]
    cases ha : p.isAbsolute
    · cases p.endsInSlash <;> rfl
    · rfl
  · have hss : ∀ s ∈ p.normalSegments, s ≠ [] ∧ slash ∉ s := fun s => ne_nil_of_mem_normalSegments
    rw [normalize, if_pos hn, isAbsolute_ofSegments hn hss]

/-- One slash more between two parts makes no difference. -/
theorem normalize_append_slash (as bs : List UInt8) :
    normalize ⟨as ++ slash :: slash :: bs⟩ = normalize ⟨as ++ slash :: bs⟩ := by
  have ha : isAbsolute ⟨as ++ slash :: slash :: bs⟩ = isAbsolute ⟨as ++ slash :: bs⟩ := by
    cases as <;> rfl
  have he : endsInSlash ⟨as ++ slash :: slash :: bs⟩ = endsInSlash ⟨as ++ slash :: bs⟩ := by
    simp [endsInSlash, List.getLast?_append, List.getLast?_cons]
  have hs : normalSegments ⟨as ++ slash :: slash :: bs⟩ = normalSegments ⟨as ++ slash :: bs⟩ := by
    have h2 : segments (as ++ slash :: slash :: bs) = segments as ++ ([[]] ++ segments bs) := by
      rw [segments_append]
      exact congrArg _ (segments_append [] bs)
    rw [normalSegments, normalSegments, ha, h2, segments_append, List.foldl_append,
      List.foldl_append, List.foldl_append]
    rfl
  rw [normalize, normalize, ha, he, hs]

end TypeScriptRepl.Path
