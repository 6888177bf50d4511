import Mathlib.Logic.Function.Basic
import Mathlib.Logic.Relation
import TypeScriptRepl.Proofs.Session.HarnessFile

/-! Any number of invocations at a time, one step after the other and in any order among them. -/
namespace TypeScriptRepl.Session

open FileSystem

/-- What an invocation knows when it writes its harness, but for the time. -/
structure Invocation where
  directory : Location
  temp : Path
  source : Path
  placement : Placement
  keep : Bool
  text : List UInt8

namespace Invocation

def parent (v : Invocation) : Path := harnessDirectory v.temp v.source v.placement

def path (v : Invocation) (millis : Int) : Path := v.parent.child (harnessName v.source millis)

def write (v : Invocation) (d : Disk) (millis : Int) (fs : FileSystem) :
    FileSystem × Except Fault HarnessFile :=
  HarnessFile.write d v.directory v.temp v.source v.placement v.keep millis v.text fs

end Invocation

/-- How far an invocation is. -/
inductive Phase where
  | ready
  /-- There is a file, in which the text is not yet complete. -/
  | created (path : Path) (l : Location)
  | written (h : HarnessFile) (l : Location)
  | closed (h : HarnessFile) (l : Location)
  | failed

namespace Phase

/-- The file that an invocation has to itself, and whether its text is complete. -/
def held? : Phase → Option (Path × Location × Bool)
  | created path l => some (path, l, false)
  | written h l => some (h.path, l, true)
  | closed h l => if h.keep then some (h.path, l, true) else none
  | _ => none

/-- The file of a harness that is written or is in use. -/
def live? : Phase → Option (Path × Location)
  | created path l => some (path, l)
  | written h l => some (h.path, l)
  | _ => none

end Phase

variable {ι : Type} [DecidableEq ι]

/-- The files and directories, and how far each invocation is. -/
structure World (ι : Type) where
  files : FileSystem
  phase : ι → Phase

namespace World

/-- The files and directories before any invocation. -/
def start (before : FileSystem) : World ι := ⟨before, fun _ => .ready⟩

/-- An invocation gets to a phase. -/
def set (w : World ι) (i : ι) (files : FileSystem) (phase : Phase) : World ι :=
  ⟨files, Function.update w.phase i phase⟩

variable {w : World ι} {i j : ι} {files files' : FileSystem} {phase phase' : Phase}

theorem set_phase_self : (w.set i files phase).phase i = phase := Function.update_self ..

theorem set_phase_of_ne (h : j ≠ i) : (w.set i files phase).phase j = w.phase j :=
  Function.update_of_ne h ..

theorem set_set : (w.set i files phase).set i files' phase' = w.set i files' phase' := by
  unfold set
  rw [Function.update_idem]

theorem set_eq_self : w.set i files (w.phase i) = ⟨files, w.phase⟩ := by
  unfold set
  rw [Function.update_eq_self]

end World

variable (calls : ι → Invocation)

/-- One step of one invocation. -/
inductive Step : World ι → World ι → Prop where
  /-- A directory is made on the way to the harness. -/
  | makeDirectory {w : World ι} {i : ι} {refuses : Location → Option Fault} {q : Path}
      {fs : FileSystem} (hi : w.phase i = .ready) (ht : (calls i).placement = .temp)
      (hq : IsIn q (calls i).parent)
      (h : w.files.makeDirectory refuses (calls i).directory q = .ok fs) :
      Step w ⟨fs, w.phase⟩
  /-- The file of the harness is made, at some time. -/
  | create {w : World ι} {i : ι} {d : Disk} {millis : Int} {fs : FileSystem} {l : Location}
      (hi : w.phase i = .ready)
      (h : HarnessFile.create d (calls i).directory ((calls i).path millis) w.files = .ok (fs, l)) :
      Step w (w.set i fs (.created ((calls i).path millis) l))
  /-- A directory or the file is not made. -/
  | refuse {w : World ι} {i : ι} (hi : w.phase i = .ready) : Step w (w.set i w.files .failed)
  /-- Some of the text is in the file. -/
  | progress {w : World ι} {i : ι} {p : Path} {l : Location} (n : Nat)
      (hi : w.phase i = .created p l) :
      Step w ⟨w.files.write l ((calls i).text.take n), w.phase⟩
  /-- The text is complete. -/
  | finish {w : World ι} {i : ι} {p : Path} {l : Location} (hi : w.phase i = .created p l) :
      Step w (w.set i (w.files.write l (calls i).text) (.written ⟨p, (calls i).keep⟩ l))
  /-- The disk does not take the text. -/
  | abandon {w : World ι} {i : ι} {p : Path} {l : Location} (hi : w.phase i = .created p l) :
      Step w (w.set i w.files .failed)
  /-- The harness is run. -/
  | run {w : World ι} {i : ι} {h : HarnessFile} {l : Location} (hi : w.phase i = .written h l) :
      Step w w
  /-- The harness is removed, unless it is kept. -/
  | close {w : World ι} {i : ι} {h : HarnessFile} {l : Location} (hi : w.phase i = .written h l) :
      Step w (w.set i (h.close (calls i).directory w.files) (.closed h l))

/-- Steps of any invocations, in any order. -/
abbrev Steps : World ι → World ι → Prop := Relation.ReflTransGen (Step calls)

/-! ### Writing in one go is a run of steps -/

variable {calls} {w w' : World ι} {i j : ι}

theorem steps_openDirectory (calls : ι → Invocation) (d : Disk) (hi : w.phase i = .ready) :
    Steps calls w ⟨(HarnessFile.openDirectory d (calls i).directory (calls i).parent
      (calls i).placement w.files).1, w.phase⟩ := by
  cases ht : (calls i).placement with
  | sibling => exact .refl
  | temp =>
    apply makeDirectories_induction (motive := fun fs => Steps calls w ⟨fs, w.phase⟩)
    · exact .refl
    · intro fs q fs' hq hw hm
      exact hw.tail (.makeDirectory hi ht hq hm)

/-- Writing a harness in one go is a run of steps, and so is failing to. -/
theorem steps_write (calls : ι → Invocation) (d : Disk) (millis : Int) (hi : w.phase i = .ready) :
    ∃ phase, Steps calls w (w.set i ((calls i).write d millis w.files).1 phase) ∧
      ∀ h, ((calls i).write d millis w.files).2 = .ok h → ∃ l, phase = .written h l := by
  have hopen := steps_openDirectory calls d hi
  unfold Invocation.write HarnessFile.write
  dsimp only
  rw [← Invocation.parent, ← Invocation.path]
  split
  · rename_i fs f ho
    rw [ho] at hopen
    exact ⟨.failed, hopen.tail (.refuse hi), nofun⟩
  · rename_i fs ho
    rw [ho] at hopen
    split
    · rename_i f hc
      exact ⟨.failed, hopen.tail (.refuse hi), nofun⟩
    · rename_i fs' l hc
      let created := w.set i fs' (.created ((calls i).path millis) l)
      have hcreated : Steps calls w created := hopen.tail (.create hi hc)
      have hphase : created.phase i = .created ((calls i).path millis) l := World.set_phase_self
      unfold HarnessFile.fill
      cases d.content with
      | none =>
        have hfinish := hcreated.tail (.finish hphase)
        rw [World.set_set] at hfinish
        refine ⟨_, hfinish, ?_⟩
        intro h hh
        obtain rfl := Except.ok.inj hh
        exact ⟨l, rfl⟩
      | some refused =>
        have hprogress := hcreated.tail (.progress refused.1 hphase)
        have habandon := hprogress.tail (.abandon hphase)
        refine ⟨.failed, ?_, nofun⟩
        have hset : World.set ⟨created.files.write l ((calls i).text.take refused.1), created.phase⟩ i
            (created.files.write l ((calls i).text.take refused.1)) .failed =
              w.set i (fs'.write l ((calls i).text.take refused.1)) .failed := World.set_set
        rw [hset] at habandon
        exact habandon

theorem steps_written (calls : ι → Invocation) (d : Disk) (millis : Int) (hi : w.phase i = .ready)
    {h : HarnessFile} (hh : ((calls i).write d millis w.files).2.toOption = some h) :
    ∃ l, Steps calls w (w.set i ((calls i).write d millis w.files).1 (.written h l)) := by
  obtain ⟨phase, hsteps, hphase⟩ := steps_write calls d millis hi
  have hok : ((calls i).write d millis w.files).2 = .ok h := by
    cases hr : ((calls i).write d millis w.files).2 with
    | error f =>
      rw [hr] at hh
      cases hh
    | ok h' =>
      rw [hr] at hh
      cases hh
      rfl
  obtain ⟨l, rfl⟩ := hphase h hok
  exact ⟨l, hsteps⟩

/-! ### Files that invocations have to themselves -/

section

variable {v : Invocation} {before fs fs' : FileSystem} {p : Path} {l : Location} {complete : Bool}

/-- An invocation has a file to itself that was not there before, and to which its path leads. -/
structure Holds (v : Invocation) (before fs : FileSystem) (p : Path) (l : Location)
    (complete : Bool) : Prop where
  new : before.node? l = none
  slash : p.bytes.getLast? ≠ some Path.slash
  place : fs.place v.directory p = .ok l
  file : ∃ content, fs.node? l = some (.file content false) ∧ (complete = true → content = v.text)

namespace Holds

theorem isSome_node? (h : Holds v before fs p l complete) : (fs.node? l).isSome = true := by
  obtain ⟨content, hl, -⟩ := h.file
  rw [hl]
  rfl

theorem isDirectory (h : Holds v before fs p l complete) : fs.isDirectory l = false := by
  obtain ⟨content, hl, -⟩ := h.file
  exact isDirectory_of_file hl

theorem locate (h : Holds v before fs p l complete) : fs.locate v.directory p = .ok l :=
  locate_of_place h.place h.isSome_node? fun hs => absurd hs h.slash

theorem ne_nil (h : Holds v before fs p l complete) : l ≠ [] := ne_nil_of_node? h.new

theorem removeFile (h : Holds v before fs p l complete) :
    fs.removeFile v.directory p = .ok (fs.erase l) :=
  removeFile_eq_ok.2 ⟨l, h.locate, h.isDirectory, rfl⟩

/-- An invocation goes on to hold a file that does not change. -/
theorem frame (h : Holds v before fs p l complete) (hk : KeepsDirectories fs fs')
    (hl : fs'.node? l = fs.node? l) : Holds v before fs' p l complete where
  new := h.new
  slash := h.slash
  place := place_of_keeps hk h.place
  file := by
    rw [hl]
    exact h.file

variable (h : Holds v before fs p l complete) (text : List UInt8)
include h

theorem write_eq : fs.write l text = fs.put l (.file text false) := by
  obtain ⟨content, hl, -⟩ := h.file
  exact write_of_file hl text

theorem keepsDirectories_write : KeepsDirectories fs (fs.write l text) := by
  rw [h.write_eq]
  exact .put h.isDirectory _

theorem write {complete' : Bool} (hc : complete' = true → text = v.text) :
    Holds v before (fs.write l text) p l complete' where
  new := h.new
  slash := h.slash
  place := place_of_keeps (h.keepsDirectories_write text) h.place
  file := by
    obtain ⟨content, hl, -⟩ := h.file
    rw [h.write_eq]
    exact ⟨text, node?_put_self h.ne_nil hl, hc⟩

end Holds
end

/-- What every step preserves: what was there before is still there, and no two invocations have the
same file. -/
structure Safe (calls : ι → Invocation) (before : FileSystem) (w : World ι) : Prop where
  stays : ∀ l n, before.node? l = some n → w.files.node? l = some n
  holds : ∀ i p l b, (w.phase i).held? = some (p, l, b) → Holds (calls i) before w.files p l b
  apart : ∀ i j p q l b c, i ≠ j → (w.phase i).held? = some (p, l, b) →
    (w.phase j).held? ≠ some (q, l, c)

namespace Safe

variable {before files : FileSystem} {phase : Phase}

omit [DecidableEq ι] in
theorem start (calls : ι → Invocation) (before : FileSystem) : Safe calls before (.start before) where
  stays := fun _ _ => id
  holds := fun _ _ _ _ => nofun
  apart := fun _ _ _ _ _ _ _ _ => nofun

/-- An invocation may change its own file, and take a place where nothing is. -/
theorem set (hw : Safe calls before w) (i : ι) (hk : KeepsDirectories w.files files)
    (hn : ∀ l, (w.files.node? l).isSome = true → (∀ p b, (w.phase i).held? ≠ some (p, l, b)) →
      files.node? l = w.files.node? l)
    (hi : ∀ p l b, phase.held? = some (p, l, b) → Holds (calls i) before files p l b ∧
      (w.files.node? l = none ∨ ∃ q c, (w.phase i).held? = some (q, l, c))) :
    Safe calls before (w.set i files phase) := by
  have hother : ∀ j p l b, j ≠ i → (w.phase j).held? = some (p, l, b) →
      ∀ q c, phase.held? ≠ some (q, l, c) := by
    intro j p l b hji hj q c hq
    rcases (hi q l c hq).2 with hnone | ⟨q', c', hq'⟩
    · have hsome := (hw.holds j p l b hj).isSome_node?
      rw [hnone] at hsome
      cases hsome
    · exact hw.apart j i p q' l b c' hji hj hq'
  refine ⟨?_, ?_, ?_⟩
  · intro l n hl
    have hnode := hw.stays l n hl
    rw [← hnode]
    apply hn l
    · rw [hnode]
      rfl
    · intro p b hp
      have hnew := (hw.holds i p l b hp).new
      rw [hl] at hnew
      cases hnew
  · intro j p l b hj
    by_cases hji : j = i
    · subst hji
      rw [World.set_phase_self] at hj
      exact (hi p l b hj).1
    · rw [World.set_phase_of_ne hji] at hj
      have hold := hw.holds j p l b hj
      apply hold.frame hk
      apply hn l hold.isSome_node?
      intro q c
      exact fun hq => hw.apart j i p q l b c hji hj hq
  · intro j k p q l b c hjk hj
    by_cases hji : j = i
    · subst hji
      rw [World.set_phase_self] at hj
      rw [World.set_phase_of_ne (Ne.symm hjk)]
      intro hq
      exact hother k q l c (Ne.symm hjk) hq p b hj
    · rw [World.set_phase_of_ne hji] at hj
      by_cases hki : k = i
      · subst hki
        rw [World.set_phase_self]
        exact hother j p l b hji hj q c
      · rw [World.set_phase_of_ne hki]
        exact hw.apart j k p q l b c hjk hj

/-- Something new may be made where nothing is. -/
theorem add (hw : Safe calls before w) (i : ι) {l : Location} (hl : w.files.node? l = none) {n : Node}
    (hi : ∀ p k b, phase.held? = some (p, k, b) →
      k = l ∧ Holds (calls i) before (w.files.add l n) p l b) :
    Safe calls before (w.set i (w.files.add l n) phase) := by
  apply hw.set i (.add _ _ _)
  · intro k hk _
    apply node?_add_of_ne
    rintro rfl
    rw [hl] at hk
    cases hk
  · intro p k b hp
    obtain ⟨rfl, hold⟩ := hi p k b hp
    exact ⟨hold, Or.inl hl⟩

theorem write (hw : Safe calls before w) {p : Path} {l : Location} (hi : w.phase i = .created p l)
    {text : List UInt8} (hp : ∀ q k b, phase.held? = some (q, k, b) →
      q = p ∧ k = l ∧ (b = true → text = (calls i).text)) :
    Safe calls before (w.set i (w.files.write l text) phase) := by
  have hheld : (w.phase i).held? = some (p, l, false) := by
    rw [hi]
    rfl
  have hold := hw.holds i p l false hheld
  apply hw.set i (hold.keepsDirectories_write text)
  · intro k hk hne
    have hkl : k ≠ l := by
      rintro rfl
      exact hne p false hheld
    rw [hold.write_eq, node?_put_of_ne hkl]
  · intro q k b hq
    obtain ⟨rfl, rfl, hb⟩ := hp q k b hq
    exact ⟨hold.write text hb, Or.inr ⟨q, false, hheld⟩⟩

theorem close (hw : Safe calls before w) {h : HarnessFile} {l : Location}
    (hi : w.phase i = .written h l) :
    Safe calls before (w.set i (h.close (calls i).directory w.files) (.closed h l)) := by
  have hheld : (w.phase i).held? = some (h.path, l, true) := by
    rw [hi]
    rfl
  have hold := hw.holds i h.path l true hheld
  unfold HarnessFile.close
  rw [hold.removeFile]
  by_cases hkeep : h.keep = true
  · rw [if_pos hkeep]
    apply hw.set i (.refl _) (fun _ _ _ => rfl)
    intro q k b hq
    rw [Phase.held?, if_pos hkeep] at hq
    cases hq
    exact ⟨hold, Or.inr ⟨h.path, true, hheld⟩⟩
  · rw [if_neg hkeep]
    apply hw.set i (.erase hold.isDirectory)
    · intro k hk hne
      apply node?_erase_of_ne
      rintro rfl
      exact hne h.path true hheld
    · intro q k b hq
      rw [Phase.held?, if_neg hkeep] at hq
      cases hq

theorem step (hw : Safe calls before w) (h : Step calls w w') : Safe calls before w' := by
  cases h with
  | @makeDirectory i refuses q fs hi ht hq h =>
    obtain ⟨l, hplace, hl, -, rfl⟩ := makeDirectory_eq_ok.1 h
    rw [← World.set_eq_self (i := i)]
    apply hw.add i hl
    intro p k b hp
    rw [hi] at hp
    cases hp
  | @create i d millis fs l hi h =>
    obtain ⟨hplace, hl, rfl⟩ := HarnessFile.create_eq_ok h
    have hnew : before.node? l = none := by
      cases hb : before.node? l with
      | none => rfl
      | some n =>
        rw [hw.stays l n hb] at hl
        cases hl
    apply hw.add i hl
    intro p k b hp
    simp only [Phase.held?, Option.some.injEq, Prod.mk.injEq] at hp
    obtain ⟨rfl, rfl, rfl⟩ := hp
    exact ⟨rfl, hnew, getLast?_harnessName _ _ _, place_of_keeps (.add _ _ _) hplace, [],
      node?_add_self hl, nofun⟩
  | @refuse i hi => exact hw.set i (.refl _) (fun _ _ _ => rfl) (fun _ _ _ => nofun)
  | @progress i p l n hi =>
    rw [← World.set_eq_self (i := i)]
    apply hw.write hi
    intro q k b hq
    rw [hi] at hq
    cases hq
    exact ⟨rfl, rfl, nofun⟩
  | finish hi =>
    apply hw.write hi
    intro q k b hq
    cases hq
    exact ⟨rfl, rfl, fun _ => rfl⟩
  | @abandon i p l hi => exact hw.set i (.refl _) (fun _ _ _ => rfl) (fun _ _ _ => nofun)
  | run => exact hw
  | close hi => exact hw.close hi

theorem steps (hw : Safe calls before w) (h : Steps calls w w') : Safe calls before w' := by
  induction h with
  | refl => exact hw
  | tail _ hs ih => exact ih.step hs

end Safe

/-! ### Harnesses in use, and harnesses that are kept -/

def Phase.Has (phase : Phase) (h : HarnessFile) (l : Location) : Prop :=
  phase = .written h l ∨ phase = .closed h l

/-- A harness that was written is the one of its invocation ever after. -/
theorem Step.has {h : HarnessFile} {l : Location} (hs : Step calls w w') (hh : (w.phase i).Has h l) :
    (w'.phase i).Has h l := by
  have hset (j : ι) (files : FileSystem) (phase : Phase)
      (hj : ∀ h' l', (w.phase j).Has h' l' → phase.Has h' l') :
      ((w.set j files phase).phase i).Has h l := by
    by_cases hij : i = j
    · subst hij
      rw [World.set_phase_self]
      exact hj h l hh
    · rwa [World.set_phase_of_ne hij]
  cases hs with
  | makeDirectory | progress | run => exact hh
  | create hj | refuse hj | finish hj | abandon hj =>
    apply hset
    intro h' l' hh'
    rw [hj] at hh'
    rcases hh' with hh' | hh' <;> cases hh'
  | close hj =>
    apply hset
    intro h' l' hh'
    rw [hj] at hh'
    rcases hh' with hh' | hh'
    · cases hh'
      exact Or.inr rfl
    · cases hh'

theorem steps_has {h : HarnessFile} {l : Location} (hs : Steps calls w w')
    (hh : (w.phase i).Has h l) : (w'.phase i).Has h l := by
  induction hs with
  | refl => exact hh
  | tail _ hs ih => exact hs.has ih

theorem held?_of_live? {phase : Phase} {p : Path} {l : Location} (h : phase.live? = some (p, l)) :
    ∃ b, phase.held? = some (p, l, b) := by
  cases phase with
  | created path k =>
    cases h
    exact ⟨false, rfl⟩
  | written g k =>
    cases h
    exact ⟨true, rfl⟩
  | ready | closed | failed => cases h

omit [DecidableEq ι] in
/-- A harness that was written holds the text of its invocation, until it is removed. -/
theorem Safe.node?_eq {before : FileSystem} (hw : Safe calls before w) {h : HarnessFile}
    {l : Location} (hh : (w.phase i).Has h l) (hk : w.phase i = .written h l ∨ h.keep = true) :
    w.files.node? l = some (.file (calls i).text false) := by
  have hheld : (w.phase i).held? = some (h.path, l, true) := by
    rcases hh with hh | hh
    · rw [hh]
      rfl
    · rcases hk with hk | hk
      · rw [hh] at hk
        cases hk
      · rw [hh, Phase.held?, if_pos hk]
  obtain ⟨content, hl, hc⟩ := (hw.holds i h.path l true hheld).file
  rw [hl, hc rfl]

theorem place_of_isAbsolute {p : Path} (hp : p.isAbsolute = true) (fs : FileSystem)
    (directory directory' : Location) : fs.place directory p = fs.place directory' p := by
  unfold place origin
  rw [hp, if_pos rfl, if_pos rfl]

/-- What holds in every state of any number of invocations. -/
structure Undisturbed (calls : ι → Invocation) (before : FileSystem) (w : World ι) : Prop where
  /-- No two invocations have the same file, or one path for it, if this path is the same file for
  both. -/
  apart : ∀ i j p q l k, i ≠ j → (w.phase i).live? = some (p, l) → (w.phase j).live? = some (q, k) →
    l ≠ k ∧ (p = q → p.isAbsolute = false ∧ (calls i).directory ≠ (calls j).directory)
  /-- A harness that was written is found at its path, with the text of its invocation. -/
  whole : ∀ i h l, w.phase i = .written h l →
    w.files.node? l = some (.file (calls i).text false) ∧
      w.files.read (calls i).directory h.path = .ok (calls i).text
  /-- What was there before the invocations is there as it was. -/
  stays : ∀ l n, before.node? l = some n → w.files.node? l = some n
  /-- A harness that is kept goes on to hold its text, whatever steps follow. -/
  kept : ∀ i h l, h.keep = true → (w.phase i).Has h l → ∀ w', Steps calls w w' →
    w'.files.node? l = some (.file (calls i).text false)

/-- Any steps of any invocations, in any order, leave the invocations undisturbed. -/
theorem steps_undisturbed {before : FileSystem} (h : Steps calls (.start before) w) :
    Undisturbed calls before w := by
  have hw : Safe calls before w := (Safe.start calls before).steps h
  refine ⟨?_, ?_, hw.stays, ?_⟩
  · intro i j p q l k hij hi hj
    obtain ⟨b, hib⟩ := held?_of_live? hi
    obtain ⟨c, hjc⟩ := held?_of_live? hj
    have hlk : l ≠ k := by
      rintro rfl
      exact hw.apart i j p q l b c hij hib hjc
    refine ⟨hlk, ?_⟩
    rintro rfl
    have hl := (hw.holds i p l b hib).place
    have hk := (hw.holds j p k c hjc).place
    constructor
    · rw [Bool.eq_false_iff]
      intro hp
      rw [place_of_isAbsolute hp _ _ (calls j).directory, hk] at hl
      cases hl
      exact hlk rfl
    · intro hd
      rw [hd, hk] at hl
      cases hl
      exact hlk rfl
  · intro i g l hg
    have hnode := hw.node?_eq (Or.inl hg) (Or.inl hg)
    have hold := hw.holds i g.path l true (by rw [hg]; rfl)
    exact ⟨hnode, read_of_file hold.locate hnode⟩
  · intro i g l hkeep hg w' hs
    exact (hw.steps hs).node?_eq (steps_has hs hg) (Or.inr hkeep)

/-- Two invocations for one source, the first of which keeps its harness. -/
def twoCalls (first : Bool) : Invocation :=
  ⟨[], .ofString "/", .ofString "/a.ts", .sibling, first, if first then [49] else [50]⟩

/-- Both harnesses may be in use at a time, if they were made at different times. -/
theorem steps_undisturbed_twoCalls :
    ∃ w : World Bool, Steps twoCalls (.start ⟨[]⟩) w ∧
      (∃ h l, h.keep = true ∧ w.phase true = .written h l) ∧ (∃ h l, w.phase false = .written h l) ∧
      Undisturbed twoCalls ⟨[]⟩ w := by
  let w : World Bool := .start ⟨[]⟩
  have hfirst : ((twoCalls true).write .sound 0 w.files).2.toOption =
      some ⟨.ofString "/.tsrepl.a.ts.0.ts", true⟩ := by decide +kernel
  have hsecond : ((twoCalls false).write .sound 1
      ((twoCalls true).write .sound 0 w.files).1).2.toOption =
        some ⟨.ofString "/.tsrepl.a.ts.1.ts", false⟩ := by decide +kernel
  obtain ⟨k, hk⟩ := steps_written twoCalls .sound 0 (w := w) (i := true) rfl hfirst
  generalize (twoCalls true).write .sound 0 w.files = first at hk hsecond
  let w' : World Bool := w.set true first.1 (.written ⟨.ofString "/.tsrepl.a.ts.0.ts", true⟩ k)
  have hready : w'.phase false = .ready := World.set_phase_of_ne Bool.false_ne_true
  obtain ⟨l, hl⟩ := steps_written twoCalls .sound 1 (w := w') hready hsecond
  have hsteps := hk.trans hl
  generalize (twoCalls false).write .sound 1 w'.files = second at hsteps
  have hfirst' : (w'.set false second.1 (.written ⟨.ofString "/.tsrepl.a.ts.1.ts", false⟩ l)).phase
      true = .written ⟨.ofString "/.tsrepl.a.ts.0.ts", true⟩ k :=
    (World.set_phase_of_ne (by decide)).trans World.set_phase_self
  exact ⟨_, hsteps, ⟨_, k, rfl, hfirst'⟩, ⟨_, l, World.set_phase_self⟩, steps_undisturbed hsteps⟩

end TypeScriptRepl.Session
