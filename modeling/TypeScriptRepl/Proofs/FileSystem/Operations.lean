import TypeScriptRepl.FileSystem.Operations
import TypeScriptRepl.Proofs.FileSystem.Lookup
import TypeScriptRepl.Proofs.Path.Join

/-! What operations on files leave behind, also when they fail. -/
namespace TypeScriptRepl.FileSystem

variable {fs fs' : FileSystem} {directory k l : Location} {p q : Path}

theorem isDirectory_of_file {content : List UInt8} {executable : Bool}
    (h : fs.node? l = some (.file content executable)) : fs.isDirectory l = false := by
  rw [Bool.eq_false_iff]
  intro hd
  rw [isDirectory_iff, h] at hd
  cases hd

/-! ### Files -/

theorem read_of_file {content : List UInt8} {executable : Bool} (hp : fs.locate directory p = .ok l)
    (hl : fs.node? l = some (.file content executable)) : fs.read directory p = .ok content := by
  unfold read
  rw [hp]
  simp only [bind, Except.bind, hl]
  rfl

theorem create_eq_ok : fs.create directory p = .ok (fs', l) ↔
    fs.place directory p = .ok l ∧ fs.node? l = none ∧ fs.add l (.file [] false) = fs' := by
  unfold create
  cases fs.place directory p with
  | error f => simp [bind, Except.bind]
  | ok k =>
    cases hk : fs.node? k with
    | none =>
      simp only [bind, Except.bind, pure, Except.pure, hk, Option.isSome_none, Bool.false_eq_true,
        if_false, Except.ok.injEq, Prod.mk.injEq]
      constructor
      · rintro ⟨h, rfl⟩
        exact ⟨rfl, hk, h⟩
      · rintro ⟨rfl, -, h⟩
        exact ⟨h, rfl⟩
    | some n =>
      simp only [bind, Except.bind, hk, Option.isSome_some, if_true, reduceCtorEq, false_iff]
      rintro ⟨h, hn, -⟩
      cases h
      rw [hk] at hn
      cases hn

theorem write_of_file {content : List UInt8} {executable : Bool}
    (h : fs.node? l = some (.file content executable)) (text : List UInt8) :
    fs.write l text = fs.put l (.file text executable) := by
  rw [write, h]

/-- Writing into a new file is as making it with what is written. -/
theorem write_add (h : fs.node? l = none) (text : List UInt8) :
    (fs.add l (.file [] false)).write l text = fs.add l (.file text false) := by
  rw [write_of_file (node?_add_self h), put_add h]

theorem removeFile_eq_ok : fs.removeFile directory p = .ok fs' ↔
    ∃ l, fs.locate directory p = .ok l ∧ fs.isDirectory l = false ∧ fs.erase l = fs' := by
  unfold removeFile
  cases fs.locate directory p with
  | error f => simp [bind, Except.bind]
  | ok k =>
    cases hk : fs.isDirectory k <;> simp [bind, Except.bind, pure, Except.pure, hk]

theorem locate_add (hp : fs.place directory p = .ok l) (hl : fs.node? l = none)
    (hs : p.bytes.getLast? ≠ some Path.slash) (n : Node) : (fs.add l n).locate directory p = .ok l := by
  apply locate_of_place (place_of_keeps (.add fs l _) hp)
  · rw [node?_add_self hl]
    rfl
  · intro h
    exact absurd h hs

theorem removeFile_add (hp : fs.place directory p = .ok l) (hl : fs.node? l = none)
    (hs : p.bytes.getLast? ≠ some Path.slash) (text : List UInt8) :
    (fs.add l (.file text false)).removeFile directory p = .ok fs :=
  removeFile_eq_ok.2
    ⟨l, locate_add hp hl hs _, isDirectory_of_file (node?_add_self hl), erase_add hl⟩

/-! ### Directories -/

variable {refuses : Location → Option Fault}

theorem makeDirectory_eq_ok : fs.makeDirectory refuses directory p = .ok fs' ↔
    ∃ l, fs.place directory p = .ok l ∧ fs.node? l = none ∧ refuses l = none ∧
      fs.add l .directory = fs' := by
  unfold makeDirectory
  cases fs.place directory p with
  | error f => simp [bind, Except.bind]
  | ok k =>
    cases hk : fs.node? k with
    | none => cases hr : refuses k <;> simp [bind, Except.bind, pure, Except.pure, hk, hr]
    | some n => simp [bind, Except.bind, hk]

/-- `p` is `q`, or a path in it. -/
inductive IsIn (q : Path) : Path → Prop where
  | self : IsIn q q
  | child {p parent : Path} (h : p.parent? = some parent) (hq : IsIn q parent) : IsIn q p

/-- What holds of the files and directories, and goes on to hold when a directory is made that a path is
in, holds once the directories are made that the path is in, as far as that succeeds. -/
theorem makeDirectories_induction {motive : FileSystem → Prop} (n : Nat) (h : motive fs)
    (hstep : ∀ {fs q fs'}, IsIn q p → motive fs →
      fs.makeDirectory refuses directory q = .ok fs' → motive fs') :
    motive (makeDirectories refuses n fs directory p).1 := by
  induction n generalizing p with
  | zero => exact h
  | succ n ih =>
    unfold makeDirectories
    split
    · exact h
    · split
      · rename_i hm
        exact hstep .self h hm
      · split
        · exact h
        · rename_i parent hparent
          have hbefore := ih (fun hq => hstep (.child hparent hq))
          split
          · rename_i hr
            rwa [hr] at hbefore
          · rename_i hr
            rw [hr] at hbefore
            split
            · rename_i hm
              exact hstep .self hbefore hm
            · exact hbefore
      · exact h

def withDirectories (fs : FileSystem) (made : List Location) : FileSystem :=
  ⟨fs.nodes ++ made.map (·, .directory)⟩

theorem withDirectories_nil (fs : FileSystem) : fs.withDirectories [] = fs := by
  simp [withDirectories]

theorem withDirectories_concat (fs : FileSystem) (made : List Location) (l : Location) :
    (fs.withDirectories made).add l .directory = fs.withDirectories (made ++ [l]) := by
  simp [withDirectories, add]

theorem node?_of_withDirectories {made : List Location}
    (h : (fs.withDirectories made).node? l = none) : fs.node? l = none := by
  rw [withDirectories, node?_append, Option.or_eq_none_iff] at h
  exact h.1

theorem node?_withDirectories_of_mem {made : List Location} (h : l ∈ made)
    (hl : fs.node? l = none) : (fs.withDirectories made).node? l = some .directory := by
  rw [FileSystem.withDirectories, node?_append, hl, Option.none_or,
    node?_of_ne_nil _ (ne_nil_of_node? hl)]
  cases hf : (made.map (·, Node.directory)).find? (·.1 = l) with
  | none => exact absurd (List.find?_eq_none.1 hf _ (List.mem_map_of_mem h)) (by simp)
  | some e =>
    obtain ⟨k, -, rfl⟩ := List.mem_map.1 (List.mem_of_find?_eq_some hf)
    rfl

theorem node?_directories (made : List Location) (l : Location) :
    node? ⟨made.map (·, .directory)⟩ l = none ∨
      node? ⟨made.map (·, .directory)⟩ l = some .directory := by
  by_cases h : l = []
  · subst h
    exact Or.inr rfl
  · rw [node?_of_ne_nil _ h]
    cases hf : (made.map (·, Node.directory)).find? (·.1 = l) with
    | none => exact Or.inl rfl
    | some e =>
      obtain ⟨k, -, rfl⟩ := List.mem_map.1 (List.mem_of_find?_eq_some hf)
      exact Or.inr rfl

theorem file?_withDirectories (fs : FileSystem) (made : List Location) :
    (fs.withDirectories made).file? = fs.file? := by
  funext l
  rw [file?, file?, withDirectories, node?_append]
  cases fs.node? l with
  | some n => rw [Option.some_or]
  | none =>
    rw [Option.none_or]
    rcases node?_directories made l with h | h <;> rw [h]

/-- Directories that were made on the way to a path: nothing was there before, each is made once, and
each is one that the path is in. -/
structure OnTheWay (fs : FileSystem) (directory : Location) (p : Path) (made : List Location) :
    Prop where
  new : ∀ l ∈ made, fs.node? l = none
  nodup : made.Nodup
  located : ∀ l ∈ made, ∃ q, IsIn q p ∧ (fs.withDirectories made).locate directory q = .ok l

namespace OnTheWay

theorem nil (fs : FileSystem) (directory : Location) (p : Path) : OnTheWay fs directory p [] :=
  ⟨fun _ h => absurd h List.not_mem_nil, List.nodup_nil, fun _ h => absurd h List.not_mem_nil⟩

theorem concat {made : List Location} (h : OnTheWay fs directory p made) (hq : IsIn q p)
    (hp : (fs.withDirectories made).place directory q = .ok l)
    (hl : (fs.withDirectories made).node? l = none) : OnTheWay fs directory p (made ++ [l]) := by
  have hnew : fs.node? l = none := node?_of_withDirectories hl
  have hmade : l ∉ made := by
    intro hm
    rw [node?_withDirectories_of_mem hm hnew] at hl
    cases hl
  have hall : ∀ k ∈ made ++ [l], fs.node? k = none := by
    intro k hk
    rcases List.mem_append.1 hk with hk | hk
    · exact h.new k hk
    · rwa [List.mem_singleton.1 hk]
  have hkeeps : KeepsDirectories (fs.withDirectories made) (fs.withDirectories (made ++ [l])) := by
    rw [← withDirectories_concat]
    exact .add _ _ _
  have hthere : ∀ k ∈ made ++ [l],
      (fs.withDirectories (made ++ [l])).node? k = some .directory :=
    fun k hk => node?_withDirectories_of_mem hk (hall k hk)
  refine ⟨hall, ?_, ?_⟩
  · rw [List.nodup_append]
    refine ⟨h.nodup, by simp, ?_⟩
    intro a ha b hb hab
    rw [hab, List.mem_singleton.1 hb] at ha
    exact hmade ha
  · intro k hk
    have hsome : ((fs.withDirectories (made ++ [l])).node? k).isSome = true := by
      rw [hthere k hk]
      rfl
    rcases List.mem_append.1 hk with hk' | hk'
    · obtain ⟨q, hq, hlocate⟩ := h.located k hk'
      exact ⟨q, hq, locate_of_keeps hkeeps hlocate hsome⟩
    · rw [List.mem_singleton.1 hk'] at hk hsome ⊢
      refine ⟨q, hq, locate_of_place (place_of_keeps hkeeps hp) hsome ?_⟩
      intro _
      exact isDirectory_iff.2 (hthere l hk)

end OnTheWay

/-- Making a directory with those that it is in adds directories on the way to it, whatever comes of
it. -/
theorem makeDirectories_onTheWay (refuses : Location → Option Fault) (n : Nat) (fs : FileSystem)
    (directory : Location) (p : Path) :
    ∃ made, OnTheWay fs directory p made ∧
      (makeDirectories refuses n fs directory p).1 = fs.withDirectories made := by
  apply makeDirectories_induction
    (motive := fun fs' => ∃ made, OnTheWay fs directory p made ∧ fs' = fs.withDirectories made) n
  · exact ⟨[], .nil fs directory p, (withDirectories_nil fs).symm⟩
  · rintro fs' q fs'' hq ⟨made, hmade, rfl⟩ hm
    obtain ⟨l, hl, hn, -, rfl⟩ := makeDirectory_eq_ok.1 hm
    exact ⟨made ++ [l], hmade.concat hq hl hn, withDirectories_concat fs made l⟩

/-! ### Directories in a directory -/

theorem namesIn_join (p : Path) (hq : q.isAbsolute = false) :
    namesIn (p.join q) = namesIn p ++ namesIn q := by
  unfold Path.join
  rw [hq, if_neg Bool.false_ne_true]
  unfold namesIn
  by_cases hs : p.bytes.getLast? = some Path.slash
  · obtain ⟨before, hb⟩ := List.getLast?_eq_some_iff.1 hs
    rw [if_pos (by simp [hs]), hb, List.append_assoc, List.singleton_append, Path.segments_append,
      Path.segments_append, List.filter_append, List.filter_append]
    have hnil : (Path.segments []).filter (!·.isEmpty) = [] := rfl
    rw [hnil, List.append_nil]
  · by_cases hp : p.bytes = []
    · have hempty : p.isEmpty = true := by rw [Path.isEmpty, hp]; rfl
      rw [if_pos (by simp [hempty]), hp]
      rfl
    · have hempty : p.isEmpty = false := by rw [Path.isEmpty, List.isEmpty_eq_false_iff]; exact hp
      rw [if_neg (by simp [hs, hempty]), Path.segments_append, List.filter_append]

theorem isEmpty_of_checkPath (h : checkPath p = .ok ()) : p.isEmpty = false := by
  rw [Bool.eq_false_iff]
  intro hp
  unfold checkPath at h
  rw [hp] at h
  split at h <;> cases h

theorem checkPath_ne_notFound (hp : p.isEmpty = false) : checkPath p ≠ .error .notFound := by
  intro h
  unfold checkPath at h
  rw [hp, if_neg Bool.false_ne_true] at h
  split at h
  · cases h
  · split at h <;> cases h

theorem walk_namesIn_of_locate (h : fs.locate directory p = .ok l) :
    fs.walk (namesIn p) (origin directory p) = .ok l := by
  have hw := (locate_eq_ok.1 h).2
  rw [namesOf, ← namesIn, walk_append] at hw
  cases hn : fs.walk (namesIn p) (origin directory p) with
  | error f =>
    rw [hn] at hw
    cases hw
  | ok k =>
    rw [hn] at hw
    replace hw : fs.walk _ k = .ok l := hw
    split at hw
    · rcases (walk_cons_eq_ok.1 hw).2 with ⟨-, h⟩ | ⟨h, -⟩ | ⟨h, -⟩
      · exact h
      · exact absurd rfl h
      · exact absurd rfl h
    · exact hw

theorem place_join (hp : fs.locate directory p = .ok l) (hl : fs.isDirectory l = true)
    (hq : q.isAbsolute = false) {name : Name} (hn : namesIn q = [name]) (h1 : name ≠ here)
    (h2 : name ≠ up) (h3 : name.length ≤ maxName) (hc : checkPath (p.join q) = .ok ()) :
    fs.place directory (p.join q) = .ok (l ++ [name]) := by
  have hempty : p.isEmpty = false := isEmpty_of_checkPath (locate_eq_ok.1 hp).1
  have horigin : origin directory (p.join q) = origin directory p := by
    unfold origin
    rw [Path.isAbsolute_join_of_not_empty hempty hq]
  refine place_eq_ok.2 ⟨hc, namesIn p, name, l, ?_, ?_, hl, h1, h2, h3, rfl⟩
  · rw [namesIn_join p hq, hn]
  · rw [horigin]
    exact walk_namesIn_of_locate hp

section

variable {name : Name} (hr : ∀ k, refuses k ≠ some .notFound) (hp : fs.locate directory p = .ok l)
  (hl : fs.isDirectory l = true) (hq : q.isAbsolute = false) (hn : namesIn q = [name])
  (h1 : name ≠ here) (h2 : name ≠ up) (h3 : name.length ≤ maxName)
include hr hp hl hq hn h1 h2 h3

theorem makeDirectory_join_ne_notFound (hempty : (p.join q).isEmpty = false) :
    fs.makeDirectory refuses directory (p.join q) ≠ .error .notFound := by
  intro h
  unfold makeDirectory at h
  cases hc : checkPath (p.join q) with
  | error f =>
    have hplace : fs.place directory (p.join q) = .error f := by
      unfold place
      rw [hc]
      rfl
    rw [hplace] at h
    cases h
    exact checkPath_ne_notFound hempty hc
  | ok =>
    rw [place_join hp hl hq hn h1 h2 h3 hc] at h
    simp only [bind, Except.bind] at h
    split at h
    · cases h
    · split at h
      · rename_i f hf
        cases h
        exact hr _ hf
      · cases h

/-- In a directory that is there, one directory is made at most. -/
theorem makeDirectories_join (n : Nat) :
    (makeDirectories refuses n fs directory (p.join q)).1 = fs.withDirectories [] ∨
      (makeDirectories refuses n fs directory (p.join q)).1 = fs.withDirectories [l ++ [name]] := by
  rw [withDirectories_nil]
  cases n with
  | zero => exact Or.inl rfl
  | succ n =>
    unfold makeDirectories
    split
    · exact Or.inl rfl
    · rename_i hempty
      split
      · rename_i fs' hm
        obtain ⟨k, hk, -, -, rfl⟩ := makeDirectory_eq_ok.1 hm
        rw [place_join hp hl hq hn h1 h2 h3 (place_eq_ok.1 hk).1] at hk
        cases hk
        exact Or.inr rfl
      · rename_i hm
        rw [Bool.not_eq_true] at hempty
        exact absurd hm (makeDirectory_join_ne_notFound hr hp hl hq hn h1 h2 h3 hempty)
      · exact Or.inl rfl

end

end TypeScriptRepl.FileSystem
