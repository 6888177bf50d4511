import TypeScriptRepl.Proofs.Path.Ancestors
import TypeScriptRepl.Settings.File

/-! The file with the settings for a directory: the nearest one above it or in it, or else that of the user.
-/
namespace TypeScriptRepl

namespace Path

variable {p q r : Path}

theorem length_of_parent? (h : p.parent? = some q) :
    q.bytes.length < p.bytes.length ∧ q.components.length < p.components.length := by
  obtain ⟨⟨hne, hc⟩, hb, -, -⟩ := isParent_of_parent? h
  have hpos := List.length_pos_iff.2 hne
  have hlt : q.components.length < p.components.length := by
    rw [hc, List.length_dropLast]
    omega
  refine ⟨Nat.lt_of_le_of_ne hb.length_le fun heq => ?_, hlt⟩
  have hbytes := hb.eq_of_length heq
  cases p
  cases q
  subst hbytes
  exact absurd hlt (Nat.lt_irrefl _)

theorem IsAncestor.of_parent? (hr : r.IsAncestor q) (h : p.parent? = some q) : r.IsAncestor p := by
  obtain ⟨⟨-, hc⟩, hb, ha, he⟩ := isParent_of_parent? h
  have hshorter := (length_of_parent? h).2
  have hthrough : q.components <+: p.components := hc ▸ List.dropLast_prefix _
  have hne : r.components ≠ p.components := by
    intro heq
    have hle := hr.through.length_le
    rw [heq] at hle
    omega
  rcases hr.shortest with rfl | ⟨-, hshortest⟩
  · exact isAncestor_of_endsInName hb hthrough ha hne he
  · refine ⟨hr.begins.trans hb, hr.through.trans hthrough, hr.rooted.trans ha, Or.inr ⟨hne, ?_⟩⟩
    intro s hs hsc
    rcases List.prefix_or_prefix_of_prefix hs hb with hsq | hqs
    · exact hshortest s hsq hsc
    · exact hr.begins.trans hqs

end Path

namespace Settings

variable {n : Nat} {p q : Path}

theorem upwards_eq_some (h : p.parent? = some q) : upwards (n + 1) p = p :: upwards n q := by
  rw [upwards, h]

theorem upwards_eq_none (h : p.parent? = none) : upwards (n + 1) p = [p] := by
  rw [upwards, h]

theorem isAncestor_of_mem_upwards (h : q ∈ upwards n p) : q.IsAncestor p := by
  induction n generalizing p with
  | zero => cases h
  | succ n ih =>
    cases hparent : p.parent? with
    | none =>
      rw [upwards_eq_none hparent, List.mem_singleton] at h
      exact h ▸ Path.IsAncestor.refl p
    | some parent =>
      rw [upwards_eq_some hparent] at h
      rcases List.mem_cons.1 h with rfl | h
      · exact Path.IsAncestor.refl q
      · exact (ih h).of_parent? hparent

/-- Further up, a path goes through less. -/
theorem pairwise_upwards (n : Nat) (p : Path) :
    (upwards n p).Pairwise fun q r => r.components.length < q.components.length := by
  induction n generalizing p with
  | zero => exact List.Pairwise.nil
  | succ n ih =>
    cases hparent : p.parent? with
    | none =>
      rw [upwards_eq_none hparent]
      exact List.pairwise_singleton _ _
    | some parent =>
      rw [upwards_eq_some hparent]
      refine List.pairwise_cons.2 ⟨fun q hq => ?_, ih parent⟩
      have hle := (isAncestor_of_mem_upwards hq).through.length_le
      have hlt := (Path.length_of_parent? hparent).2
      omega

/-- Down to the root, or to nothing, there is a path for each beginning of what a path goes through. -/
theorem exists_mem_upwards (h : p.bytes.length < n) {cs : List Path.Component}
    (hc : cs <+: p.components) (ha : p.isAbsolute = true → cs ≠ []) :
    ∃ q ∈ upwards n p, q.components = cs := by
  induction n generalizing p with
  | zero => omega
  | succ n ih =>
    by_cases heq : cs = p.components
    · refine ⟨p, ?_, heq.symm⟩
      cases hparent : p.parent? with
      | none =>
        rw [upwards_eq_none hparent]
        exact List.mem_cons_self
      | some parent =>
        rw [upwards_eq_some hparent]
        exact List.mem_cons_self
    · cases hparent : p.parent? with
      | none =>
        rcases Path.components_of_parent?_eq_none hparent with hnil | hroot
        · rw [hnil] at hc heq
          exact absurd (List.prefix_nil.1 hc) heq
        · have hlead := (Path.root_mem_components p).1 (hroot ▸ List.mem_singleton_self _)
          have habsolute : p.isAbsolute = true := by
            rw [Path.isAbsolute_eq_parts, hlead]
            rfl
          rw [hroot] at hc heq
          have hpos := List.length_pos_iff.2 (ha habsolute)
          have hle := hc.length_le
          rw [List.length_singleton] at hle
          exact absurd (hc.eq_of_length (by rw [List.length_singleton]; omega)) heq
      | some parent =>
        rw [upwards_eq_some hparent]
        obtain ⟨⟨hne, hparts⟩, -, hrooted, -⟩ := Path.isParent_of_parent? hparent
        have hlt := (Path.length_of_parent? hparent).1
        have hbefore : cs <+: parent.components := by
          have hshorter : cs.length < p.components.length :=
            Nat.lt_of_le_of_ne hc.length_le fun hlength => heq (hc.eq_of_length hlength)
          refine List.prefix_of_prefix_length_le hc (hparts ▸ List.dropLast_prefix _) ?_
          rw [hparts, List.length_dropLast]
          omega
        obtain ⟨q, hq, hqc⟩ := ih (by omega) hbefore (hrooted ▸ ha)
        exact ⟨q, List.mem_cons_of_mem _ hq, hqc⟩

theorem mem_upwards (h : p.bytes.length < n) : q ∈ upwards n p ↔ q.IsAncestor p := by
  refine ⟨isAncestor_of_mem_upwards, fun hq => ?_⟩
  have hne : p.isAbsolute = true → q.components ≠ [] := by
    intro ha hc
    have hroot := (Path.root_mem_components q).2 (by
      rw [← hq.rooted, Path.isAbsolute_eq_parts] at ha
      exact of_decide_eq_true ha)
    rw [hc] at hroot
    cases hroot
  obtain ⟨r, hr, hrc⟩ := exists_mem_upwards h hq.through hne
  rwa [hq.eq_of_components_eq (isAncestor_of_mem_upwards hr) hrc.symm]

def userFile (home : Path) : Path := ((home.child ".config").child "ts-repl").child fileName

/-- The directory is the deepest one above another one, or that one itself, in which there is a file
with settings. -/
structure IsNearest (fs : FileSystem) (directory : FileSystem.Location) (start d : Path) : Prop where
  above : d.IsAncestor start
  isFile : fs.isFile directory (d.child fileName) = true
  deepest : ∀ e : Path, e.IsAncestor start → fs.isFile directory (e.child fileName) = true →
    e.components.length ≤ d.components.length

/-- Of elements of which each is less than those before it, a search finds the greatest one. -/
theorem find?_eq_some_iff_of_pairwise {α : Type} {f : α → Nat} {test : α → Bool} {l : List α} {a : α}
    (h : l.Pairwise fun b c => f c < f b) :
    l.find? test = some a ↔ a ∈ l ∧ test a = true ∧ ∀ b ∈ l, test b = true → f b ≤ f a := by
  induction l with
  | nil => simp
  | cons b l ih =>
    obtain ⟨hb, hl⟩ := List.pairwise_cons.1 h
    by_cases ht : test b = true
    · rw [List.find?_cons_of_pos ht]
      constructor
      · intro hab
        obtain rfl := Option.some.inj hab
        refine ⟨List.mem_cons_self, ht, fun c hc _ => ?_⟩
        rcases List.mem_cons.1 hc with rfl | hc
        · exact Nat.le_refl _
        · exact Nat.le_of_lt (hb c hc)
      · rintro ⟨ha, -, hmax⟩
        rcases List.mem_cons.1 ha with rfl | ha
        · rfl
        · exact absurd (hmax b List.mem_cons_self ht) (Nat.not_le.2 (hb a ha))
    · rw [List.find?_cons_of_neg ht, ih hl]
      constructor
      · rintro ⟨ha, hta, hmax⟩
        refine ⟨List.mem_cons_of_mem _ ha, hta, fun c hc htc => ?_⟩
        rcases List.mem_cons.1 hc with rfl | hc
        · exact absurd htc ht
        · exact hmax c hc htc
      · rintro ⟨ha, hta, hmax⟩
        refine ⟨(List.mem_cons.1 ha).resolve_left ?_, hta, fun c hc => hmax c (List.mem_cons_of_mem _ hc)⟩
        rintro rfl
        exact ht hta

section

variable (fs : FileSystem) (directory : FileSystem.Location) (home : Option Path) (start : Path)

def directories : List Path := upwards (start.bytes.length + 1) start

theorem mem_directories {d : Path} : d ∈ directories start ↔ d.IsAncestor start :=
  mem_upwards (Nat.lt_succ_self _)

theorem pairwise_directories :
    (directories start).Pairwise fun d e => e.components.length < d.components.length :=
  pairwise_upwards (start.bytes.length + 1) start

theorem nodup_directories : (directories start).Nodup := by
  refine (pairwise_directories start).imp fun {d e} hlt heq => ?_
  rw [heq] at hlt
  exact Nat.lt_irrefl _ hlt

theorem find?_directories_eq_some_iff {d : Path} :
    (directories start).find? (fun d => fs.isFile directory (d.child fileName)) = some d ↔
      IsNearest fs directory start d := by
  rw [find?_eq_some_iff_of_pairwise (pairwise_directories start)]
  constructor
  · rintro ⟨hd, hf, hdeepest⟩
    exact ⟨(mem_directories start).1 hd, hf, fun e he => hdeepest e ((mem_directories start).2 he)⟩
  · rintro ⟨hd, hf, hdeepest⟩
    exact ⟨(mem_directories start).2 hd, hf, fun e he => hdeepest e ((mem_directories start).1 he)⟩

theorem find?_directories_eq_none_iff :
    (directories start).find? (fun d => fs.isFile directory (d.child fileName)) = none ↔
      ∀ d : Path, d.IsAncestor start → fs.isFile directory (d.child fileName) = false := by
  rw [List.find?_eq_none]
  refine forall_congr' fun d => ?_
  rw [mem_directories, Bool.not_eq_true]

theorem find?_userFile_eq_some_iff {p : Path} :
    ((home.map userFile).toList.find? (fs.isFile directory)) = some p ↔
      ∃ h, home = some h ∧ fs.isFile directory (userFile h) = true ∧ p = userFile h := by
  cases home with
  | none => simp
  | some h =>
    rw [Option.map_some, Option.toList_some, List.find?_singleton, Option.ite_none_right_eq_some]
    constructor
    · rintro ⟨hf, hp⟩
      exact ⟨h, rfl, hf, (Option.some.inj hp).symm⟩
    · rintro ⟨h', hh, hf, hp⟩
      obtain rfl := Option.some.inj hh
      exact ⟨hf, congrArg some hp.symm⟩

/-- Each directory from `start` upwards is looked at once, and then the place for the settings of the
user. The file that is found is in the deepest directory that has one; if none does, it is the one of
the user. -/
theorem find?_is_nearest :
    (∃ above : List Path, above.Nodup ∧ (∀ d, d ∈ above ↔ d.IsAncestor start) ∧
      candidates home start = above.map (·.child fileName) ++ (home.map userFile).toList) ∧
    ∀ p, find? fs directory home start = some p ↔
      (∃ d, IsNearest fs directory start d ∧ p = d.child fileName) ∨
      ((∀ d : Path, d.IsAncestor start → fs.isFile directory (d.child fileName) = false) ∧
        ∃ h, home = some h ∧ fs.isFile directory (userFile h) = true ∧ p = userFile h) := by
  refine ⟨⟨directories start, nodup_directories start, fun d => mem_directories start, rfl⟩,
    fun p => ?_⟩
  have hsearch : find? fs directory home start =
      (((directories start).find? fun d => fs.isFile directory (d.child fileName)).map
        (·.child fileName)).or ((home.map userFile).toList.find? (fs.isFile directory)) := by
    rw [find?, candidates, List.find?_append, List.find?_map]
    rfl
  rw [hsearch, Option.or_eq_some_iff, Option.map_eq_some_iff, Option.map_eq_none_iff,
    find?_directories_eq_none_iff, find?_userFile_eq_some_iff]
  refine or_congr (exists_congr fun d => ?_) Iff.rfl
  rw [find?_directories_eq_some_iff, eq_comm (a := p)]

/-- A relative path has the empty path above it, and what names nothing at its end is left out. -/
example : (candidates none (.ofString "a//./b/")).map Path.display =
    ["a//./b/ts-repl.toml", "a/ts-repl.toml", "ts-repl.toml"] := by cbv

end

end Settings
end TypeScriptRepl
