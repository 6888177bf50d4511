import TypeScriptRepl.Proofs.Session.HarnessFile
import TypeScriptRepl.Session.Run

/-! What a run leaves behind, whatever fails in it. -/
namespace TypeScriptRepl.Session

open FileSystem

/-- How far a run gets. -/
inductive Course where
  /-- There are no settings, there is no source file, or it is no program. -/
  | refused
  | printed
  /-- The harness could not be written. -/
  | unwritten (settings : Settings)
  /-- The harness was written. There is a status if its command started. -/
  | session (settings : Settings) (harness : Path) (text : String) (status : Option Status)

namespace Course

def exitCode : Course → Nat
  | refused => 1
  | printed => 0
  | unwritten _ => 1
  | session _ _ _ none => 1
  | session _ _ _ (some status) => status.exitCode

/-- What there is after a run, if there were some files and directories before it. -/
def Leaves (s : Surroundings) (before after : FileSystem) : Course → Prop
  | refused => after = before
  | printed => after = before
  | unwritten settings =>
    ∃ made, Makes s.disk before s.directory s.environment.temp settings.harness.placement made ∧
      after = before.withDirectories made
  | session settings harness text _ =>
    ∃ made l, Makes s.disk before s.directory s.environment.temp settings.harness.placement made ∧
      (before.withDirectories made).node? l = none ∧
      (before.withDirectories made).place s.directory harness = .ok l ∧
      after = if settings.harness.keep then
          (before.withDirectories made).add l (.file (utf8 text) false)
        else before.withDirectories made

end Course

section

variable (s : Surroundings) (words : List CommandLine.Word) (c : CommandLine) (fs : FileSystem)

/-- The steps of a run up to its harness: they give the settings, as the command line changes them, the
path of the source file, and the harness. -/
def prepared : Except Failure (Settings × Path × Harness) := do
  let (settings, _) ← settingsFor s c fs
  let (path, text) ← sourceFor s c fs
  let harness ← (Harness.prepare text (optionsFor s words (c.apply settings))).mapError
    (.source · text)
  return (c.apply settings, path, harness)

def written (settings : Settings) (path : Path) (text : String) :
    FileSystem × Except Fault HarnessFile :=
  HarnessFile.write s.disk s.directory s.environment.temp path settings.harness.placement
    settings.harness.keep s.millis (utf8 text) fs

def course : Course :=
  match prepared s words c fs with
  | .error _ => .refused
  | .ok (settings, path, harness) =>
    if c.has .print then .printed
    else
      match written s fs settings path harness.text with
      | (_, .error _) => .unwritten settings
      | (fs', .ok h) =>
        .session settings h.path harness.text
          ((s.start (processFor s settings h) fs').toOption.map (·.status))

end

variable {s : Surroundings} {words : List CommandLine.Word} {c : CommandLine} {fs : FileSystem}

theorem withSource_of_error (c : CommandLine) {settings : Settings} (path : Path) {text : String}
    (fs : FileSystem) {e : ParseError}
    (h : Harness.prepare text (optionsFor s words settings) = .error e) :
    (withSource s words c settings path text fs).status = .exited 1 ∧
      (withSource s words c settings path text fs).files = fs := by
  unfold withSource
  rw [h]
  exact ⟨rfl, rfl⟩

/-- A run is refused, or goes on with what was prepared. -/
theorem invoke_cases (s : Surroundings) (words : List CommandLine.Word) (c : CommandLine)
    (fs : FileSystem) :
    (∃ f, prepared s words c fs = .error f ∧ (invoke s words c fs).status = .exited 1 ∧
        (invoke s words c fs).files = fs) ∨
      ∃ settings path text harness,
        prepared s words c fs = .ok (c.apply settings, path, harness) ∧
        Harness.prepare text (optionsFor s words (c.apply settings)) = .ok harness ∧
        (invoke s words c fs).status =
          (withSource s words c (c.apply settings) path text fs).status ∧
        (invoke s words c fs).files =
          (withSource s words c (c.apply settings) path text fs).files := by
  unfold prepared invoke
  cases settingsFor s c fs with
  | error f => exact Or.inl ⟨f, rfl, rfl, rfl⟩
  | ok settings =>
    cases sourceFor s c fs with
    | error f => exact Or.inl ⟨f, rfl, rfl, rfl⟩
    | ok source =>
      obtain ⟨settings, warning⟩ := settings
      obtain ⟨path, text⟩ := source
      simp only [bind, Except.bind]
      cases hp : Harness.prepare text (optionsFor s words (c.apply settings)) with
      | error e =>
        have h := withSource_of_error c path fs hp
        exact Or.inl ⟨.source e text, rfl, h.1, h.2⟩
      | ok harness =>
        refine Or.inr ⟨settings, path, text, harness, rfl, hp, ?_, ?_⟩
        · simp only
        · simp only

/-- A command that changes no files leaves those that are there once the harness is removed. -/
theorem session_leaves (hs : ∀ p fs o, s.start p fs = .ok o → o.files = fs) (settings : Settings)
    (h : HarnessFile) (fs : FileSystem) (text : String) :
    (session s settings h fs).status = .exited (Course.session settings h.path text
        ((s.start (processFor s settings h) fs).toOption.map (·.status))).exitCode ∧
      (session s settings h fs).files = h.close s.directory fs := by
  unfold session
  cases hp : s.start (processFor s settings h) fs with
  | error f => exact ⟨rfl, rfl⟩
  | ok o =>
    have hfiles : o.files = fs := hs _ fs o hp
    refine ⟨rfl, ?_⟩
    show h.close s.directory o.files = _
    rw [hfiles]

/-- What follows from a source file that is a program. -/
theorem withSource_leaves (hd : s.disk.content = none)
    (hs : ∀ p fs o, s.start p fs = .ok o → o.files = fs) {settings : Settings} {path : Path}
    {text : String} {harness : Harness}
    (hp : Harness.prepare text (optionsFor s words settings) = .ok harness)
    (hr : prepared s words c fs = .ok (settings, path, harness)) :
    (withSource s words c settings path text fs).status =
        .exited (course s words c fs).exitCode ∧
      (course s words c fs).Leaves s fs (withSource s words c settings path text fs).files := by
  unfold withSource course
  rw [hp, hr]
  dsimp only
  by_cases hprint : c.has .print = true
  · rw [if_pos hprint, if_pos hprint]
    exact ⟨rfl, rfl⟩
  · rw [if_neg hprint, if_neg hprint]
    unfold written
    obtain ⟨made, hmade, ⟨f, hw⟩ | ⟨h, l, hkeep, hpath, hplace, hl, hw⟩⟩ :=
      HarnessFile.write_cases s.directory s.environment.temp path settings.harness.placement
        settings.harness.keep s.millis (utf8 harness.text) fs hd
    · rw [hw]
      exact ⟨rfl, made, hmade, rfl⟩
    · rw [hw]
      obtain ⟨hstatus, hfiles⟩ := session_leaves hs settings h
        ((fs.withDirectories made).add l (.file (utf8 harness.text) false)) harness.text
      have hslash : h.path.bytes.getLast? ≠ some Path.slash := by
        rw [hpath]
        exact getLast?_harnessName _ _ _
      have hclose := h.close_add (utf8 harness.text) hplace hl hslash
      rw [hkeep] at hclose
      exact ⟨hstatus, made, l, hmade, hl, hplace, hfiles.trans hclose⟩

/-- A run whose harness cannot be written fails, and leaves what writing it left. -/
theorem invoke_of_write_error {settings : Settings} {path : Path} {harness : Harness}
    {after : FileSystem} {f : Fault} (hr : prepared s words c fs = .ok (settings, path, harness))
    (hprint : c.has .print = false)
    (hw : written s fs settings path harness.text = (after, .error f)) :
    (invoke s words c fs).status = .exited 1 ∧ (invoke s words c fs).files = after := by
  rcases invoke_cases s words c fs with ⟨e, hr', -⟩ | ⟨_, _, _, _, hr', hp, hstatus, hfiles⟩
  · rw [hr] at hr'
    cases hr'
  · rw [hr] at hr'
    cases hr'
    have hnot : ¬c.has .print = true := by rw [hprint]; decide
    unfold written at hw
    rw [hstatus, hfiles]
    unfold withSource
    rw [hp]
    dsimp only
    rw [if_neg hnot, hw]
    exact ⟨rfl, rfl⟩

theorem Course.Leaves.node?_eq {before after : FileSystem} {course : Course}
    (h : course.Leaves s before after) {l : Location} {n : Node} (hl : before.node? l = some n) :
    after.node? l = some n := by
  have hmade (made : List Location) : (before.withDirectories made).node? l = some n := by
    rw [withDirectories, node?_append, hl, Option.some_or]
  cases course with
  | refused => rwa [show after = before from h]
  | printed => rwa [show after = before from h]
  | unwritten settings =>
    obtain ⟨made, -, rfl⟩ := h
    exact hmade made
  | session settings harness text status =>
    obtain ⟨made, k, -, -, -, rfl⟩ := h
    split
    · rw [add, node?_append, hmade made, Option.some_or]
    · exact hmade made

/-- On a disk that takes what is written, and with commands that change no files, a run ends with the
exit code of how far it gets, and what was there stays as it is. There is a new file if the harness was
written and is kept, and there may be new directories on the way to the directory of temporary
harnesses. -/
theorem invoke_leaves (words : List CommandLine.Word) (c : CommandLine) (fs : FileSystem)
    (hd : s.disk.content = none) (hs : ∀ p fs o, s.start p fs = .ok o → o.files = fs) :
    (invoke s words c fs).status = .exited (course s words c fs).exitCode ∧
      (course s words c fs).Leaves s fs (invoke s words c fs).files ∧
      ∀ l n, fs.node? l = some n → (invoke s words c fs).files.node? l = some n := by
  have h : (invoke s words c fs).status = .exited (course s words c fs).exitCode ∧
      (course s words c fs).Leaves s fs (invoke s words c fs).files := by
    rcases invoke_cases s words c fs with ⟨f, hr, hstatus, hfiles⟩ |
      ⟨settings, path, text, harness, hr, hp, hstatus, hfiles⟩
    · have hc : course s words c fs = .refused := by
        unfold course
        rw [hr]
      rw [hc, hstatus, hfiles]
      exact ⟨rfl, rfl⟩
    · rw [hstatus, hfiles]
      exact withSource_leaves hd hs hp hr
  exact ⟨h.1, h.2, fun l n hl => h.2.node?_eq hl⟩

/-- What surrounds a run in the root directory whose command ends with exit code 3. -/
def Surroundings.atRoot (temp : Path) : Surroundings where
  directory := []
  executable := .ofString "/bin/ts-repl"
  environment := [("TMPDIR", temp.bytes)]
  userHome := .ofString "/u"
  millis := 0
  disk := .sound
  start := fun _ fs => .ok ⟨.exited 3, [], [], fs⟩

def oneSource : FileSystem := ⟨[([utf8 "a.ts"], .file (utf8 "const x = 1") false)]⟩

theorem invoke_leaves_kept :
    let s : Surroundings := .atRoot (.ofString "/t")
    let c : CommandLine := ⟨.ofString "a.ts", [.tempDir, .keep], none⟩
    (course s [] c oneSource).exitCode = 3 ∧
      (invoke s [] c oneSource).status = .exited (course s [] c oneSource).exitCode ∧
      (course s [] c oneSource).Leaves s oneSource (invoke s [] c oneSource).files ∧
      ∀ l n, oneSource.node? l = some n → (invoke s [] c oneSource).files.node? l = some n := by
  intro s c
  refine ⟨by decide +kernel, invoke_leaves [] c oneSource rfl ?_⟩
  intro p fs o ho
  cases ho
  rfl

/-- A directory of temporary files that cannot be made, since its name is too long, in one that can. -/
def tooLong : Path := ⟨Path.slash :: 97 :: Path.slash :: List.replicate 256 76⟩

/-- The run fails, and there is a new directory, but it is not the directory of temporary harnesses. -/
theorem invoke_leaves_parent :
    let s : Surroundings := .atRoot tooLong
    let o := invoke s [] ⟨.ofString "a.ts", [.tempDir], none⟩ oneSource
    o.status = .exited 1 ∧ o.files ≠ oneSource ∧
      ¬∃ l, o.files.locate s.directory (s.environment.temp.child "ts-repl") = .ok l ∧
        o.files = oneSource.add l .directory := by
  intro s o
  have ho : o.status = .exited 1 ∧ o.files = oneSource.add [utf8 "a"] .directory := by
    decide +kernel
  obtain ⟨hstatus, hfiles⟩ := ho
  rw [hfiles]
  refine ⟨hstatus, by decide, ?_⟩
  rintro ⟨l, hl, -⟩
  have hlong : ((oneSource.add [utf8 "a"] .directory).locate s.directory
      (s.environment.temp.child "ts-repl")).toOption = none := by
    decide +kernel
  rw [hl] at hlong
  cases hlong

end TypeScriptRepl.Session
