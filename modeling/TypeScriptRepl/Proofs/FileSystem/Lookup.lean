import Mathlib.Logic.Function.Basic
import TypeScriptRepl.FileSystem.Basic

/-! What is found at a location, and where paths lead, after files and directories were added or removed. -/
namespace TypeScriptRepl.FileSystem

variable {fs fs' : FileSystem} {k l : Location} {m n : Node}

theorem node?_of_ne_nil (fs : FileSystem) (h : l ≠ []) :
    fs.node? l = (fs.nodes.find? (·.1 = l)).map (·.2) := by
  cases l with
  | nil => exact absurd rfl h
  | cons => rfl

theorem node?_append (fs : FileSystem) (added : List (Location × Node)) (l : Location) :
    node? ⟨fs.nodes ++ added⟩ l = (fs.node? l).or (node? ⟨added⟩ l) := by
  by_cases h : l = []
  · subst h
    rfl
  · rw [node?_of_ne_nil _ h, node?_of_ne_nil _ h, node?_of_ne_nil _ h, List.find?_append]
    cases fs.nodes.find? (·.1 = l) <;> rfl

theorem ne_nil_of_node? (h : fs.node? l = none) : l ≠ [] := by
  rintro rfl
  cases h

theorem ne_of_mem_nodes (h : fs.node? l = none) {e : Location × Node} (he : e ∈ fs.nodes) :
    e.1 ≠ l := by
  rw [node?_of_ne_nil _ (ne_nil_of_node? h), Option.map_eq_none_iff] at h
  simpa using List.find?_eq_none.1 h e he

theorem node?_add_self (h : fs.node? l = none) : (fs.add l n).node? l = some n := by
  rw [add, node?_append, h, Option.none_or, node?_of_ne_nil _ (ne_nil_of_node? h)]
  simp

theorem node?_add_of_ne (h : k ≠ l) : (fs.add l n).node? k = fs.node? k := by
  rw [add, node?_append]
  by_cases hk : k = []
  · rw [hk]
    rfl
  · rw [node?_of_ne_nil ⟨[(l, n)]⟩ hk]
    simp [Ne.symm h]

/-- The content of a file, and whether it can be executed. -/
def file? (fs : FileSystem) (l : Location) : Option (List UInt8 × Bool) :=
  match fs.node? l with
  | some (.file content executable) => some (content, executable)
  | _ => none

theorem file?_of_node?_eq (h : fs.node? k = fs'.node? l) : fs.file? k = fs'.file? l := by
  rw [file?, file?, h]

theorem file?_add (h : fs.node? l = none) (content : List UInt8) (executable : Bool) :
    (fs.add l (.file content executable)).file? =
      Function.update fs.file? l (some (content, executable)) := by
  funext k
  by_cases hk : k = l
  · subst hk
    rw [Function.update_self, file?, node?_add_self h]
  · rw [Function.update_of_ne hk, file?_of_node?_eq (node?_add_of_ne hk)]

/-- Something else may be put at a location, but nothing else changes. -/
theorem find?_put (fs : FileSystem) (k l : Location) (n : Node) :
    (fs.put l n).nodes.find? (·.1 = k) =
      (fs.nodes.find? (·.1 = k)).map fun e => if e.1 = l then (l, n) else e := by
  have hc : ((fun e : Location × Node => decide (e.1 = k)) ∘ fun e => if e.1 = l then (l, n) else e) =
      fun e => decide (e.1 = k) := by
    funext e
    by_cases he : e.1 = l <;> simp [he]
  rw [put, List.find?_map, hc]

theorem node?_put_self (hl : l ≠ []) (h : fs.node? l = some m) : (fs.put l n).node? l = some n := by
  rw [node?_of_ne_nil _ hl, Option.map_eq_some_iff] at h
  obtain ⟨e, he, -⟩ := h
  have hel : e.1 = l := by simpa using List.find?_some he
  rw [node?_of_ne_nil _ hl, find?_put, he, Option.map_some, if_pos hel, Option.map_some]

theorem node?_put_of_ne (h : k ≠ l) : (fs.put l n).node? k = fs.node? k := by
  by_cases hk : k = []
  · rw [hk]
    rfl
  · rw [node?_of_ne_nil _ hk, node?_of_ne_nil _ hk, find?_put]
    cases he : fs.nodes.find? (·.1 = k) with
    | none => rfl
    | some e =>
      have hek : e.1 = k := by simpa using List.find?_some he
      have hel : e.1 ≠ l := by rwa [hek]
      rw [Option.map_some, if_neg hel]

theorem node?_erase_of_ne (h : k ≠ l) : (fs.erase l).node? k = fs.node? k := by
  by_cases hk : k = []
  · rw [hk]
    rfl
  · rw [node?_of_ne_nil _ hk, node?_of_ne_nil _ hk, erase, List.find?_filter]
    congr 2
    funext e
    by_cases he : e.1 = k <;> simp [he, h]

theorem erase_add (h : fs.node? l = none) : (fs.add l n).erase l = fs := by
  have hf : fs.nodes.filter (fun e => decide (e.1 ≠ l)) = fs.nodes := by
    rw [List.filter_eq_self]
    intro e he
    simpa using ne_of_mem_nodes h he
  rw [erase, add, List.filter_append, hf]
  simp

theorem put_add (h : fs.node? l = none) : (fs.add l n).put l m = fs.add l m := by
  have hm : fs.nodes.map (fun e => if e.1 = l then (l, m) else e) = fs.nodes := by
    rw [List.map_congr_left (g := id), List.map_id]
    intro e he
    exact if_neg (ne_of_mem_nodes h he)
  rw [put, add, List.map_append, hm]
  simp [add]

def KeepsDirectories (fs fs' : FileSystem) : Prop :=
  ∀ l, fs.isDirectory l = true → fs'.isDirectory l = true

theorem isDirectory_iff : fs.isDirectory l = true ↔ fs.node? l = some .directory := by
  rw [isDirectory, decide_eq_true_eq]

namespace KeepsDirectories

theorem refl (fs : FileSystem) : KeepsDirectories fs fs := fun _ => id

theorem append (fs : FileSystem) (added : List (Location × Node)) :
    KeepsDirectories fs ⟨fs.nodes ++ added⟩ := by
  intro l hl
  rw [isDirectory_iff] at hl ⊢
  rw [node?_append, hl, Option.some_or]

theorem add (fs : FileSystem) (l : Location) (n : Node) : KeepsDirectories fs (fs.add l n) :=
  append fs [(l, n)]

theorem put (h : fs.isDirectory l = false) (n : Node) : KeepsDirectories fs (fs.put l n) := by
  intro k hk
  have hne : k ≠ l := by
    rintro rfl
    rw [hk] at h
    cases h
  rw [isDirectory_iff] at hk ⊢
  rwa [node?_put_of_ne hne]

theorem erase (h : fs.isDirectory l = false) : KeepsDirectories fs (fs.erase l) := by
  intro k hk
  have hne : k ≠ l := by
    rintro rfl
    rw [hk] at h
    cases h
  rw [isDirectory_iff] at hk ⊢
  rwa [node?_erase_of_ne hne]

end KeepsDirectories

/-! ### Walking -/

theorem up_ne_here : up ≠ here := by decide

/-- A walk goes on from a directory: to this directory itself, to its parent, or into what is there. -/
theorem walk_cons_eq_ok {name : Name} {rest : List Name} {t : Location} :
    fs.walk (name :: rest) l = .ok t ↔ fs.isDirectory l = true ∧
      (name = here ∧ fs.walk rest l = .ok t ∨
        name ≠ here ∧ name = up ∧ fs.walk rest l.dropLast = .ok t ∨
        name ≠ here ∧ name ≠ up ∧ name.length ≤ maxName ∧ (fs.node? (l ++ [name])).isSome = true ∧
          fs.walk rest (l ++ [name]) = .ok t) := by
  rw [walk, isDirectory_iff]
  cases hl : fs.node? l with
  | none => simp
  | some node =>
    cases node with
    | file => simp
    | directory =>
      by_cases h1 : name = here
      · simp [h1]
      · by_cases h2 : name = up
        · simp [h2, up_ne_here]
        · by_cases h3 : maxName < name.length
          · simp [h1, h2, h3, Nat.not_le.2 h3]
          · have h3' : name.length ≤ maxName := Nat.le_of_not_lt h3
            cases fs.node? (l ++ [name]) <;> simp [h1, h2, h3, h3']

theorem walk_append (fs : FileSystem) (names rest : List Name) (l : Location) :
    fs.walk (names ++ rest) l = (fs.walk names l).bind (fs.walk rest) := by
  induction names generalizing l with
  | nil => rfl
  | cons name names ih =>
    rw [List.cons_append, walk, walk]
    cases fs.node? l with
    | none => rfl
    | some node =>
      cases node with
      | file => rfl
      | directory =>
        by_cases h1 : name = here
        · simp only [h1, if_true, ih]
        · by_cases h2 : name = up
          · simp only [h2, up_ne_here, if_true, if_false, ih]
          · by_cases h3 : maxName < name.length
            · simp only [h1, h2, h3, if_true, if_false]
              rfl
            · cases h4 : (fs.node? (l ++ [name])).isNone
              · simp [h1, h2, h3, ih]
              · simp only [h1, h2, h3, if_true, if_false]
                rfl

/-- A walk through directories that are still there leads to the same location. -/
theorem walk_of_keeps (hk : KeepsDirectories fs fs') {names : List Name} {t : Location}
    (h : fs.walk names l = .ok t) (ht : (fs'.node? t).isSome = true) : fs'.walk names l = .ok t := by
  induction names generalizing l with
  | nil => exact h
  | cons name rest ih =>
    rw [walk_cons_eq_ok] at h ⊢
    obtain ⟨hd, h⟩ := h
    refine ⟨hk l hd, ?_⟩
    rcases h with ⟨h1, h⟩ | ⟨h1, h2, h⟩ | ⟨h1, h2, h3, -, h⟩
    · exact Or.inl ⟨h1, ih h⟩
    · exact Or.inr (Or.inl ⟨h1, h2, ih h⟩)
    · refine Or.inr (Or.inr ⟨h1, h2, h3, ?_, ih h⟩)
      cases rest with
      | nil =>
        cases h
        exact ht
      | cons =>
        have hd' := hk _ (walk_cons_eq_ok.1 h).1
        rw [isDirectory_iff] at hd'
        rw [hd']
        rfl

/-! ### Paths -/

variable {directory t : Location} {p : Path}

def namesIn (p : Path) : List Name := (Path.segments p.bytes).filter (!·.isEmpty)

theorem locate_eq_ok : fs.locate directory p = .ok t ↔
    checkPath p = .ok () ∧ fs.walk (namesOf p) (origin directory p) = .ok t := by
  unfold locate
  cases checkPath p with
  | error f => simp [bind, Except.bind]
  | ok => simp [bind, Except.bind]

/-- A place is in a directory, and has a name of its own there. -/
theorem place_eq_ok : fs.place directory p = .ok t ↔ checkPath p = .ok () ∧
    ∃ names name l, namesIn p = names ++ [name] ∧ fs.walk names (origin directory p) = .ok l ∧
      fs.isDirectory l = true ∧ name ≠ here ∧ name ≠ up ∧ name.length ≤ maxName ∧ l ++ [name] = t := by
  unfold place
  cases checkPath p with
  | error f => simp [bind, Except.bind]
  | ok =>
    simp only [bind, Except.bind, true_and]
    rw [← namesIn]
    rcases List.eq_nil_or_concat (namesIn p) with hn | ⟨names, name, hn⟩
    · simp [hn]
    · rw [List.concat_eq_append] at hn
      simp only [hn, List.reverse_append, List.reverse_singleton, List.singleton_append,
        List.reverse_reverse]
      cases hw : fs.walk names (origin directory p) with
      | error f =>
        constructor
        · intro h
          cases h
        · rintro ⟨names', name', l, he, hw', -⟩
          rw [← (List.append_inj' he rfl).1, hw] at hw'
          cases hw'
      | ok l =>
        constructor
        · intro h
          by_cases hd : fs.isDirectory l = true
          · by_cases h12 : name = here ∨ name = up
            · simp [hd, h12] at h
            · rw [not_or] at h12
              by_cases h3 : maxName < name.length
              · simp [hd, h12, h3] at h
              · simp only [hd, h12, h3, Bool.not_true, Bool.false_eq_true, or_self, if_false] at h
                cases h
                exact ⟨names, name, l, rfl, hw, hd, h12.1, h12.2, Nat.le_of_not_lt h3, rfl⟩
          · simp [hd] at h
        · rintro ⟨names', name', l', he, hw', hd, h1, h2, h3, rfl⟩
          obtain ⟨rfl, hn'⟩ := List.append_inj' he rfl
          cases hn'
          rw [hw] at hw'
          cases hw'
          simp [hd, h1, h2, Nat.not_lt.2 h3, pure, Except.pure]

theorem place_of_keeps (hk : KeepsDirectories fs fs') (h : fs.place directory p = .ok t) :
    fs'.place directory p = .ok t := by
  rw [place_eq_ok] at h ⊢
  obtain ⟨hp, names, name, l, hn, hw, hd, h⟩ := h
  have hd' : fs'.isDirectory l = true := hk l hd
  refine ⟨hp, names, name, l, hn, walk_of_keeps hk hw ?_, hd', h⟩
  rw [isDirectory_iff.1 hd']
  rfl

theorem locate_of_keeps (hk : KeepsDirectories fs fs') (h : fs.locate directory p = .ok t)
    (ht : (fs'.node? t).isSome = true) : fs'.locate directory p = .ok t := by
  rw [locate_eq_ok] at h ⊢
  exact ⟨h.1, walk_of_keeps hk h.2 ht⟩

/-- A path leads to its place once something is there; to a directory, if it ends with a slash. -/
theorem locate_of_place (h : fs.place directory p = .ok t) (ht : (fs.node? t).isSome = true)
    (hs : p.bytes.getLast? = some Path.slash → fs.isDirectory t = true) :
    fs.locate directory p = .ok t := by
  rw [place_eq_ok] at h
  obtain ⟨hp, names, name, l, hn, hw, hd, h1, h2, h3, rfl⟩ := h
  have hlast : fs.walk [name] l = .ok (l ++ [name]) :=
    walk_cons_eq_ok.2 ⟨hd, Or.inr (Or.inr ⟨h1, h2, h3, ht, rfl⟩)⟩
  have hall : fs.walk (namesIn p) (origin directory p) = .ok (l ++ [name]) := by
    rw [hn, walk_append, hw]
    exact hlast
  refine locate_eq_ok.2 ⟨hp, ?_⟩
  rw [namesOf, ← namesIn, walk_append, hall]
  show fs.walk _ _ = _
  split
  · rename_i hslash
    exact walk_cons_eq_ok.2 ⟨hs hslash.2, Or.inl ⟨rfl, rfl⟩⟩
  · rfl

end TypeScriptRepl.FileSystem
