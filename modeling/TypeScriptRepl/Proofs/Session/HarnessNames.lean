import Mathlib
import TypeScriptRepl.Proofs.Path.Ancestors
import TypeScriptRepl.Proofs.Text.Digits
import TypeScriptRepl.Proofs.Text.Utf8
import TypeScriptRepl.Session.HarnessPath

/-! The name of a harness tells the name of its source and the time. -/
namespace TypeScriptRepl

open Text

namespace Text

theorem Utf8.slash_mem_encode {cs : List Char} : Path.slash ∈ Utf8.encode cs ↔ '/' ∈ cs := by
  have hchar (c : Char) : Path.slash ∈ String.utf8EncodeChar c ↔ c = '/' :=
    (Utf8.mem_utf8EncodeChar_iff (by decide)).trans (Char.toNat_inj (d := '/'))
  simp [Utf8.encode, hchar]

end Text

/-- Texts that end in a part without a separator are parted at the last one. -/
theorem append_separator_inj {α : Type} {x : α} {as bs us vs : List α} (hu : x ∉ us) (hv : x ∉ vs)
    (h : as ++ x :: us = bs ++ x :: vs) : as = bs ∧ us = vs := by
  have first {zs us vs : List α} (hu : x ∉ us) (hz : x :: us = zs ++ x :: vs) : zs = [] ∧ us = vs := by
    cases zs with
    | nil => exact ⟨rfl, (List.cons.inj hz).2⟩
    | cons z zs =>
      rw [(List.cons.inj hz).2] at hu
      exact absurd (List.mem_append_right zs List.mem_cons_self) hu
  rcases List.append_eq_append_iff.1 h with ⟨zs, rfl, hz⟩ | ⟨zs, rfl, hz⟩
  · obtain ⟨rfl, hrest⟩ := first hu hz
    exact ⟨(List.append_nil as).symm, hrest⟩
  · obtain ⟨rfl, hrest⟩ := first hv hz
    exact ⟨List.append_nil bs, hrest.symm⟩

namespace Session

def siblingHarness (temp source : Path) (millis : Int) : Path :=
  (harnessDirectory temp source .sibling).child (harnessName source millis)

variable {p q : Path} {b c : List Char}

theorem toList_harnessName (hp : p.fileName? = some (Utf8.encode b)) (t : Int) :
    (harnessName p t).toList =
      ".tsrepl.".toList ++ ((b ++ '.' :: (toString t).toList) ++ ".ts".toList) := by
  rw [harnessName, hp, Option.map_some, Option.getD_some, Utf8.decodeLossy_encode]
  simp

theorem harnessName_eq_iff (hp : p.fileName? = some (Utf8.encode b))
    (hq : q.fileName? = some (Utf8.encode c)) (t u : Int) :
    harnessName p t = harnessName q u ↔ b = c ∧ t = u := by
  rw [← String.toList_inj, toList_harnessName hp, toList_harnessName hq]
  constructor
  · intro h
    have hparted := List.append_cancel_right (List.append_cancel_left h)
    obtain ⟨hname, htime⟩ :=
      append_separator_inj (not_mem_toString (by decide) (by decide) t)
        (not_mem_toString (by decide) (by decide) u) hparted
    exact ⟨hname, Int.repr_injective (String.toList_inj.1 htime)⟩
  · rintro ⟨rfl, rfl⟩
    rfl

/-! The harness goes through what its directory goes through, and then its name. -/

/-- The path is what its name is in some directory. -/
theorem components_of_fileName? {segment : List UInt8} (h : p.fileName? = some segment) :
    p.components = p.components.dropLast ++ [.named segment] := by
  unfold Path.fileName? at h
  split at h
  · rename_i s hlast
    obtain rfl := Option.some.inj h
    exact (List.dropLast_append_getLast? _ hlast).symm
  · cases h

theorem eq_of_componentOf_eq_named {s segment : List UInt8}
    (h : Path.componentOf s = .named segment) : s = segment := by
  unfold Path.componentOf at h
  split at h
  · cases h
  · exact Path.Component.named.inj h

theorem slash_notMem_of_fileName? {segment : List UInt8} (h : p.fileName? = some segment) :
    Path.slash ∉ segment := by
  have hmem : Path.Component.named segment ∈ p.components := by
    rw [components_of_fileName? h]
    exact List.mem_append_right _ List.mem_cons_self
  rw [Path.components_eq, List.mem_append] at hmem
  rcases hmem with hlead | hname
  · unfold Path.lead at hlead
    split at hlead
    · simp at hlead
    · split at hlead <;> simp at hlead
  · obtain ⟨s, hs, hcomponent⟩ := List.mem_map.1 hname
    rw [← eq_of_componentOf_eq_named hcomponent]
    exact Path.slash_notMem_of_mem_split List.not_mem_nil (List.mem_filter.1 hs).1

theorem directory_not_isEmpty (temp source : Path) :
    (harnessDirectory temp source .sibling).isEmpty = false := by
  unfold harnessDirectory
  dsimp only
  split
  · split
    · rfl
    · exact Bool.eq_false_of_not_eq_true ‹_›
  · rfl

/-- A segment that names something is one component. -/
theorem names_of_slash_notMem {bytes : List UInt8} (h : Path.slash ∉ bytes)
    (hn : Path.isNamed bytes = true) : Path.names bytes = [bytes] := by
  rw [Path.names, Path.segments_eq, List.splitOn_eq_singleton h, List.filter_cons_of_pos hn,
    List.filter_nil]

theorem slash_notMem_harnessName (hp : p.fileName? = some (Utf8.encode b)) (t : Int) :
    Path.slash ∉ (Path.ofString (harnessName p t)).bytes := by
  have hname : '/' ∉ b := fun h => slash_notMem_of_fileName? hp (Utf8.slash_mem_encode.2 h)
  have htime := not_mem_toString (c := '/') (by decide) (by decide) t
  rw [Path.ofString, Utf8.slash_mem_encode, toList_harnessName hp]
  simp only [List.mem_append, List.mem_cons, hname, htime]
  decide

theorem components_siblingHarness (temp : Path) (hp : p.fileName? = some (Utf8.encode b)) (t : Int) :
    (siblingHarness temp p t).components = (harnessDirectory temp p .sibling).components ++
      [Path.componentOf (Utf8.encode (harnessName p t).toList)] := by
  have hbegins : ∃ rest, (Path.ofString (harnessName p t)).bytes = Path.dot :: 116 :: rest := by
    rw [Path.ofString, toList_harnessName hp]
    exact ⟨_, rfl⟩
  obtain ⟨rest, hbytes⟩ := hbegins
  have hrelative : (Path.ofString (harnessName p t)).isAbsolute = false := by
    rw [Path.isAbsolute, hbytes]
    rfl
  have hnamed : Path.isNamed (Path.ofString (harnessName p t)).bytes = true := by
    rw [hbytes]
    simp [Path.isNamed]
  rw [siblingHarness, Path.child, Path.components_join (directory_not_isEmpty temp p) hrelative,
    names_of_slash_notMem (slash_notMem_harnessName hp t) hnamed]
  rfl

theorem componentOf_harnessName_inj (hp : p.fileName? = some (Utf8.encode b))
    (hq : q.fileName? = some (Utf8.encode c)) {t u : Int}
    (h : Path.componentOf (Utf8.encode (harnessName p t).toList) =
      Path.componentOf (Utf8.encode (harnessName q u).toList)) : b = c ∧ t = u := by
  have hname := String.toList_inj.1 (Utf8.eq_of_encode_eq (Path.componentOf_injective h))
  exact (harnessName_eq_iff hp hq t u).1 hname

/-- The name of the harness is not the name of the source: it is longer. -/
theorem components_siblingHarness_ne (temp : Path) (hp : p.fileName? = some (Utf8.encode b))
    (t : Int) : (siblingHarness temp p t).components ≠ p.components := by
  intro h
  have hlast := congrArg List.getLast? h
  rw [components_siblingHarness temp hp, components_of_fileName? hp, List.getLast?_concat,
    List.getLast?_concat, Option.some_inj] at hlast
  have hname := Utf8.eq_of_encode_eq (eq_of_componentOf_eq_named hlast)
  have hlength := congrArg List.length hname
  rw [toList_harnessName hp] at hlength
  simp at hlength
  omega

theorem siblingHarness_eq_iff (temp : Path) (hp : p.fileName? = some (Utf8.encode b))
    (hq : q.fileName? = some (Utf8.encode c)) (t u : Int) :
    (siblingHarness temp p t).components = (siblingHarness temp q u).components ↔
      (harnessDirectory temp p .sibling).components = (harnessDirectory temp q .sibling).components ∧
        b = c ∧ t = u := by
  rw [components_siblingHarness temp hp, components_siblingHarness temp hq]
  constructor
  · intro h
    obtain ⟨hdirectory, hname⟩ := List.append_inj' h (by simp only [List.length_singleton])
    exact ⟨hdirectory, componentOf_harnessName_inj hp hq (List.singleton_inj.1 hname)⟩
  · rintro ⟨hdirectory, hname⟩
    rw [hdirectory, (harnessName_eq_iff hp hq t u).2 hname]

/-- Sources of one name in one directory are the same source. -/
theorem components_eq_of_fileName?_eq {segment : List UInt8} (hp : p.fileName? = some segment)
    (hq : q.fileName? = some segment) (h : p.components.dropLast = q.components.dropLast) :
    p.components = q.components := by
  rw [components_of_fileName? hp, components_of_fileName? hq, h]

/-- The names of harnesses are told apart by the names of their sources and by the times, even if
these names contain dots and numbers, or are names of harnesses themselves. A harness next to its
source is not the source, and no harness of another source of the same directory. Paths are told apart
by what they go through, so that two spellings of a path are one. -/
theorem harnesses_are_told_apart (temp p q : Path) (b c : List Char)
    (hp : p.fileName? = some (Utf8.encode b)) (hq : q.fileName? = some (Utf8.encode c)) (t u : Int) :
    (harnessName p t = harnessName q u ↔ b = c ∧ t = u) ∧
    (siblingHarness temp p t).components ≠ p.components ∧
    ((siblingHarness temp p t).components = (siblingHarness temp q u).components ↔
      (harnessDirectory temp p .sibling).components = (harnessDirectory temp q .sibling).components ∧
        b = c ∧ t = u) ∧
    (p.components.dropLast = q.components.dropLast → p.components ≠ q.components →
      (siblingHarness temp p t).components ≠ (siblingHarness temp q u).components) := by
  refine ⟨harnessName_eq_iff hp hq t u, components_siblingHarness_ne temp hp t,
    siblingHarness_eq_iff temp hp hq t u, fun hdirectory hne heq => ?_⟩
  obtain ⟨-, rfl, -⟩ := (siblingHarness_eq_iff temp hp hq t u).1 heq
  exact hne (components_eq_of_fileName?_eq hp hq hdirectory)

theorem harnesses_are_told_apart_numberedSource :
    harnessName (.ofString "/work/x.ts") 1700000000123 = ".tsrepl.x.ts.1700000000123.ts" ∧
    harnessName (.ofString "/work/x.ts") 1700000000123 ≠
      harnessName (.ofString "/work/.tsrepl.x.ts.1700000000123.ts") (-1) ∧
    (siblingHarness .empty (.ofString "/work/x.ts") 1700000000123).components ≠
      (Path.ofString "/work/x.ts").components ∧
    (siblingHarness .empty (.ofString "/work/x.ts") 1700000000123).components ≠
      (siblingHarness .empty (.ofString "/work/.tsrepl.x.ts.1700000000123.ts") (-1)).components := by
  obtain ⟨hname, hsource, hharness, -⟩ := harnesses_are_told_apart .empty (.ofString "/work/x.ts")
    (.ofString "/work/.tsrepl.x.ts.1700000000123.ts") "x.ts".toList
    ".tsrepl.x.ts.1700000000123.ts".toList (by decide +kernel) (by decide +kernel) 1700000000123 (-1)
  refine ⟨by decide +kernel, fun h => ?_, hsource, fun h => ?_⟩
  · exact absurd (hname.1 h).2 (by decide)
  · exact absurd (hharness.1 h).2.2 (by decide)

end Session
end TypeScriptRepl
