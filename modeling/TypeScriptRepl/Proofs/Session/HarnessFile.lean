import TypeScriptRepl.Proofs.FileSystem.Operations
import TypeScriptRepl.Session.HarnessFile

/-! What writing a harness leaves behind, and what is left when it is removed. -/
namespace TypeScriptRepl

open FileSystem Text

namespace Session

/-- A harness is a file by its name: the name does not end with a slash. -/
theorem getLast?_harnessName (p source : Path) (millis : Int) :
    (p.child (harnessName source millis)).bytes.getLast? ≠ some Path.slash := by
  have hname : (Path.ofString (harnessName source millis)).bytes.getLast? = some 115 := by
    unfold harnessName Path.ofString Utf8.encode
    rw [String.toList_append, List.flatMap_append, List.getLast?_append]
    rfl
  unfold Path.child
  rw [Path.getLast?_join p hname]
  decide

variable {d : Disk} {directory l : Location} {fs : FileSystem}

/-- Directories that are made for a harness: none next to its source; else those that are missing on
the way to the directory of temporary harnesses. If only this one is missing, it is the only one. -/
structure Makes (d : Disk) (fs : FileSystem) (directory : Location) (temp : Path)
    (placement : Placement) (made : List Location) : Prop where
  onTheWay : OnTheWay fs directory (temp.child "ts-repl") made
  sibling : placement = .sibling → made = []
  there : (∀ k, d.directory k ≠ some .notFound) → ∀ l, fs.locate directory temp = .ok l →
    fs.isDirectory l = true → made = [] ∨ made = [l ++ [(Path.ofString "ts-repl").bytes]]

def Disk.taken (d : Disk) (text : List UInt8) : List UInt8 :=
  match d.content with
  | some (n, _) => text.take n
  | none => text

namespace HarnessFile

theorem withDirectories_injective {made made' : List Location}
    (h : fs.withDirectories made = fs.withDirectories made') : made = made' := by
  simpa [withDirectories, List.map_inj_right] using h

theorem openDirectory_makes (d : Disk) (directory : Location) (temp source : Path)
    (placement : Placement) (fs : FileSystem) :
    ∃ made, Makes d fs directory temp placement made ∧
      (openDirectory d directory (harnessDirectory temp source placement) placement fs).1 =
        fs.withDirectories made := by
  cases placement with
  | sibling =>
    exact ⟨[], ⟨.nil .., fun _ => rfl, fun _ _ _ _ => Or.inl rfl⟩, (withDirectories_nil fs).symm⟩
  | temp =>
    let p := temp.child "ts-repl"
    obtain ⟨made, hmade, hfs⟩ :=
      makeDirectories_onTheWay d.directory (p.bytes.length + 1) fs directory p
    refine ⟨made, ⟨hmade, nofun, ?_⟩, hfs⟩
    intro hr l hlocate hl
    have hname : namesIn (.ofString "ts-repl") = [(Path.ofString "ts-repl").bytes] := by decide
    have h := makeDirectories_join hr hlocate hl (by decide) hname (by decide) (by decide) (by decide)
      (p.bytes.length + 1)
    rcases h with h | h
    · exact Or.inl (withDirectories_injective (hfs.symm.trans h))
    · exact Or.inr (withDirectories_injective (hfs.symm.trans h))

theorem create_eq_ok {p : Path} {fs' : FileSystem} (h : create d directory p fs = .ok (fs', l)) :
    fs.place directory p = .ok l ∧ fs.node? l = none ∧ fs.add l (.file [] false) = fs' := by
  unfold create at h
  split at h
  · cases h
  · exact FileSystem.create_eq_ok.1 h

theorem fill_add (h : fs.node? l = none) (text : List UInt8) :
    fill d l text (fs.add l (.file [] false)) =
      (fs.add l (.file (d.taken text) false), d.content.map (·.2)) := by
  unfold fill Disk.taken
  cases d.content with
  | none => exact congrArg (·, none) (write_add h text)
  | some refused => exact congrArg (·, some refused.2) (write_add h (text.take refused.1))

/-- The location of the file that is made for a harness, if writing it gets so far. -/
def opened? (d : Disk) (directory : Location) (temp source : Path) (placement : Placement)
    (millis : Int) (fs : FileSystem) : Option Location :=
  let parent := harnessDirectory temp source placement
  match openDirectory d directory parent placement fs with
  | (_, some _) => none
  | (fs, none) =>
    (create d directory (parent.child (harnessName source millis)) fs).toOption.map (·.2)

/-- Writing a harness makes directories, and then fails, or makes one new file. This file holds what the
disk takes of the text, and there is a harness if this is all. -/
theorem write_opened (d : Disk) (directory : Location) (temp source : Path) (placement : Placement)
    (keep : Bool) (millis : Int) (text : List UInt8) (fs : FileSystem) :
    ∃ made, Makes d fs directory temp placement made ∧
      (opened? d directory temp source placement millis fs = none ∧
          (∃ f, write d directory temp source placement keep millis text fs =
            (fs.withDirectories made, .error f)) ∨
        ∃ h l, opened? d directory temp source placement millis fs = some l ∧ h.keep = keep ∧
          h.path = (harnessDirectory temp source placement).child (harnessName source millis) ∧
          (fs.withDirectories made).place directory h.path = .ok l ∧
          (fs.withDirectories made).node? l = none ∧
          write d directory temp source placement keep millis text fs =
            ((fs.withDirectories made).add l (.file (d.taken text) false),
              match d.content with
              | none => .ok h
              | some (_, f) => .error f)) := by
  obtain ⟨made, hmade, hfs⟩ := openDirectory_makes d directory temp source placement fs
  refine ⟨made, hmade, ?_⟩
  unfold write opened?
  dsimp only
  generalize (harnessDirectory temp source placement).child (harnessName source millis) = path
  cases ho : openDirectory d directory (harnessDirectory temp source placement) placement fs with
  | mk fs' fault =>
    rw [ho] at hfs
    subst hfs
    cases fault with
    | some f => exact Or.inl ⟨rfl, f, rfl⟩
    | none =>
      dsimp only
      cases hc : create d directory path (fs.withDirectories made) with
      | error f => exact Or.inl ⟨rfl, f, rfl⟩
      | ok result =>
        obtain ⟨fs', l⟩ := result
        obtain ⟨hplace, hl, rfl⟩ := create_eq_ok hc
        refine Or.inr ⟨⟨path, keep⟩, l, rfl, rfl, rfl, hplace, hl, ?_⟩
        dsimp only
        rw [fill_add hl]
        cases d.content <;> rfl

theorem write_cases (directory : Location) (temp source : Path) (placement : Placement) (keep : Bool)
    (millis : Int) (text : List UInt8) (fs : FileSystem) (hd : d.content = none) :
    ∃ made, Makes d fs directory temp placement made ∧
      ((∃ f, write d directory temp source placement keep millis text fs =
          (fs.withDirectories made, .error f)) ∨
        ∃ h l, h.keep = keep ∧
          h.path = (harnessDirectory temp source placement).child (harnessName source millis) ∧
          (fs.withDirectories made).place directory h.path = .ok l ∧
          (fs.withDirectories made).node? l = none ∧
          write d directory temp source placement keep millis text fs =
            ((fs.withDirectories made).add l (.file text false), .ok h)) := by
  obtain ⟨made, hmade, ⟨-, hf⟩ | ⟨h, l, -, hkeep, hpath, hplace, hl, hw⟩⟩ :=
    write_opened d directory temp source placement keep millis text fs
  · exact ⟨made, hmade, Or.inl hf⟩
  · rw [Disk.taken, hd] at hw
    exact ⟨made, hmade, Or.inr ⟨h, l, hkeep, hpath, hplace, hl, hw⟩⟩

/-- If writing a harness fails, the files are as they were, unless the file of the harness was made:
then it is a new one, it stays, and it holds what the disk took of the text. -/
theorem files_of_write_error {temp source : Path} {placement : Placement} {keep : Bool} {millis : Int}
    {text : List UInt8} {after : FileSystem} {f : Fault}
    (h : write d directory temp source placement keep millis text fs = (after, .error f)) :
    (after.file? = fs.file? ↔ opened? d directory temp source placement millis fs = none) ∧
      ∀ l, opened? d directory temp source placement millis fs = some l →
        fs.node? l = none ∧
        after.locate directory
          ((harnessDirectory temp source placement).child (harnessName source millis)) = .ok l ∧
        ∃ n, d.content = some (n, f) ∧
          after.file? = Function.update fs.file? l (some (text.take n, false)) := by
  obtain ⟨made, -, ⟨ho, f', hw⟩ | ⟨file, k, ho, -, hpath, hplace, hk, hw⟩⟩ :=
    write_opened d directory temp source placement keep millis text fs
  · rw [h] at hw
    obtain ⟨rfl, -⟩ := Prod.mk.inj hw
    rw [ho]
    refine ⟨⟨fun _ => rfl, fun _ => file?_withDirectories fs made⟩, ?_⟩
    intro l hl
    cases hl
  · rw [h] at hw
    obtain ⟨rfl, hf⟩ := Prod.mk.inj hw
    cases hc : d.content with
    | none =>
      rw [hc] at hf
      cases hf
    | some refused =>
      obtain ⟨n, f'⟩ := refused
      rw [hc] at hf
      cases hf
      have hl : fs.node? k = none := node?_of_withDirectories hk
      have hfiles : ((fs.withDirectories made).add k (.file (d.taken text) false)).file? =
          Function.update fs.file? k (some (text.take n, false)) := by
        rw [file?_add hk, file?_withDirectories, Disk.taken, hc]
      rw [ho]
      constructor
      · constructor
        · intro hsame
          have hnew : some (text.take n, false) = fs.file? k := by
            rw [← hsame, hfiles, Function.update_self]
          rw [file?, hl] at hnew
          cases hnew
        · intro hnone
          cases hnone
      · intro l hkl
        cases hkl
        rw [hpath] at hplace
        exact ⟨hl, locate_add hplace hk (getLast?_harnessName _ _ _) _, n, rfl, hfiles⟩

/-- The disk takes two bytes of three, and they stay. -/
theorem files_of_write_error_twoBytes :
    let d : Disk := { Disk.sound with content := some (2, .noSpace) }
    let fs : FileSystem := ⟨[([[97]], .file [1] false)]⟩
    let l : Location := [(Path.ofString ".tsrepl.a.0.ts").bytes]
    let after := fs.add l (.file [7, 8] false)
    write d [] (.ofString "/t") (.ofString "/a") .sibling false 0 [7, 8, 9] fs =
        (after, .error .noSpace) ∧
      opened? d [] (.ofString "/t") (.ofString "/a") .sibling 0 fs = some l ∧
      after.file? ≠ fs.file? ∧
      ∃ n, d.content = some (n, .noSpace) ∧
        after.file? = Function.update fs.file? l (some (([7, 8, 9] : List UInt8).take n, false)) := by
  intro d fs l after
  have hw : write d [] (.ofString "/t") (.ofString "/a") .sibling false 0 [7, 8, 9] fs =
      (after, .error .noSpace) := rfl
  have ho : opened? d [] (.ofString "/t") (.ofString "/a") .sibling 0 fs = some l := by
    decide +kernel
  obtain ⟨hsame, hstays⟩ := files_of_write_error hw
  refine ⟨hw, ho, ?_, (hstays l ho).2.2⟩
  rw [ne_eq, hsame, ho]
  exact Option.some_ne_none l

/-- Where no file may grow, an empty one stays. -/
theorem not_files_of_write_error_tooLarge :
    ¬∀ (d : Disk) (directory : Location) (temp source : Path) (placement : Placement) (keep : Bool)
      (millis : Int) (text : List UInt8) (fs after : FileSystem) (f : Fault),
      write d directory temp source placement keep millis text fs = (after, .error f) →
        after.file? = fs.file? := by
  intro h
  let d : Disk := { Disk.sound with content := some (0, .tooLarge) }
  let fs : FileSystem := ⟨[([[98]], .file [1] false)]⟩
  let l : Location := [(Path.ofString ".tsrepl.b.0.ts").bytes]
  have hw : write d [] (.ofString "/t") (.ofString "/b") .sibling false 0 [7] fs =
      (fs.add l (.file [] false), .error .tooLarge) := rfl
  have hl := congrFun (h d [] _ _ _ _ _ _ fs _ _ hw) l
  revert hl
  decide +kernel

/-- A harness that was written is removed without a trace, unless it is kept. -/
theorem close_add (h : HarnessFile) (text : List UInt8) (hp : fs.place directory h.path = .ok l)
    (hl : fs.node? l = none) (hs : h.path.bytes.getLast? ≠ some Path.slash) :
    h.close directory (fs.add l (.file text false)) =
      if h.keep then fs.add l (.file text false) else fs := by
  unfold close
  by_cases hk : h.keep = true
  · rw [if_pos hk, if_pos hk]
  · rw [if_neg hk, if_neg hk, removeFile_add hp hl hs]

end HarnessFile
end Session
end TypeScriptRepl
