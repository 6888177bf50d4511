import TypeScriptRepl.Proofs.Path.Join

/-! What a path goes through that starts from another one. -/
namespace TypeScriptRepl.Path

def names (bytes : List UInt8) : List (List UInt8) := (segments bytes).filter isNamed

def componentOf (segment : List UInt8) : Component :=
  if segment = [dot, dot] then .up else .named segment

def beginsHere : List UInt8 → Bool
  | a :: rest => a = dot && (rest.isEmpty || rest.head? = some slash)
  | [] => false

def lead (bytes : List UInt8) : List Component :=
  if bytes.head? = some slash then [.root] else if beginsHere bytes then [.here] else []

theorem names_append (as bs : List UInt8) : names (as ++ slash :: bs) = names as ++ names bs := by
  rw [names, segments_append, List.filter_append]
  rfl

theorem names_slash (bytes : List UInt8) : names (slash :: bytes) = names bytes :=
  names_append [] bytes

theorem names_of_beginsHere {a : UInt8} {rest : List UInt8} (h : beginsHere (a :: rest) = true) :
    names (a :: rest) = names rest := by
  obtain ⟨rfl, hr⟩ := Bool.and_eq_true_iff.1 h |>.imp of_decide_eq_true id
  cases rest with
  | nil => rfl
  | cons b rest =>
    obtain rfl : b = slash := by simpa using hr
    rw [names_slash]
    exact names_append [dot] rest

theorem components_eq (p : Path) : p.components = lead p.bytes ++ (names p.bytes).map componentOf := by
  obtain ⟨bytes⟩ := p
  cases bytes with
  | nil => rfl
  | cons a rest =>
    by_cases ha : a = slash
    · subst ha
      rw [names_slash]
      rfl
    · by_cases hd : beginsHere (a :: rest) = true
      · have hlead : lead (a :: rest) = [.here] := by
          rw [lead, if_neg (by simpa using ha), if_pos hd]
        have hparts : parts ⟨a :: rest⟩ = ([dot], rest) := (if_neg ha).trans (if_pos hd)
        rw [hlead, names_of_beginsHere hd, components, hparts]
        rfl
      · have hlead : lead (a :: rest) = [] := by
          rw [lead, if_neg (by simpa using ha), if_neg hd]
        have hparts : parts ⟨a :: rest⟩ = ([], a :: rest) := (if_neg ha).trans (if_neg hd)
        rw [hlead, components, hparts]
        rfl

/-- How a path begins does not change with what comes after a slash. -/
theorem lead_append {as bs : List UInt8} (hne : as ≠ [])
    (h : as.getLast? = some slash ∨ bs.head? = some slash) : lead (as ++ bs) = lead as := by
  obtain ⟨a, as, rfl⟩ := List.exists_cons_of_ne_nil hne
  cases as with
  | cons b as => rfl
  | nil =>
    rcases h with h | h
    · obtain rfl : a = slash := Option.some.inj h
      rfl
    · have hb : beginsHere ([a] ++ bs) = beginsHere [a] := by simp [beginsHere, h]
      rw [lead, lead, hb]
      rfl

variable {p q : Path}

/-- A path that starts from another one goes through the components of that one first. -/
theorem components_join (hp : p.isEmpty = false) (hq : q.isAbsolute = false) :
    (p.join q).components = p.components ++ (names q.bytes).map componentOf := by
  have hne : p.bytes ≠ [] := by rwa [isEmpty, List.isEmpty_eq_false_iff] at hp
  rw [components_eq, components_eq, List.append_assoc, ← List.map_append]
  by_cases hs : p.bytes.getLast? = some slash
  · obtain ⟨before, hb⟩ := List.getLast?_eq_some_iff.1 hs
    have hj : (p.join q).bytes = p.bytes ++ q.bytes := by
      rw [join, hq, if_neg Bool.false_ne_true, if_pos (by simp [hs])]
    have hnames : names (p.bytes ++ q.bytes) = names p.bytes ++ names q.bytes := by
      have hbefore : names (before ++ [slash]) = names before ++ names [] := names_append before []
      rw [hb, hbefore, List.append_assoc]
      exact (names_append before q.bytes).trans (congrArg (· ++ names q.bytes) (List.append_nil _).symm)
    rw [hj, hnames, lead_append hne (Or.inl hs)]
  · have hj : (p.join q).bytes = p.bytes ++ slash :: q.bytes := by
      rw [join, hq, if_neg Bool.false_ne_true, if_neg (by simp [hs, hp])]
    rw [hj, names_append, lead_append hne (Or.inr rfl)]

theorem components_prefix_join (p : Path) (hq : q.isAbsolute = false) :
    p.components <+: (p.join q).components := by
  cases hp : p.isEmpty with
  | true =>
    have hb : p.bytes = [] := List.isEmpty_iff.1 hp
    have hc : p.components = [] := by rw [components_eq, hb]; rfl
    rw [hc]
    exact List.nil_prefix
  | false =>
    rw [components_join hp hq]
    exact List.prefix_append _ _

end TypeScriptRepl.Path
