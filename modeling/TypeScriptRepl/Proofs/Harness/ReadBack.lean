import Mathlib.Logic.Function.Basic
import TypeScriptRepl.Proofs.Export.Insertion

/-! What a session knows each name as: the block of a harness reads the exports of its own module back. -/
namespace TypeScriptRepl

/-- What an exported name stands for: a name of this module, or one of a source module. -/
inductive ExportTarget where
  | own (name : String)
  | passedOn (source name : String)
deriving Repr, DecidableEq

def ExportList.exportEntries (l : ExportList) : List (String × ExportTarget) :=
  l.specifiers.map fun s =>
    (s.exportedAs, match l.source with
      | none => .own s.name
      | some source => .passedOn source s.name)

def Item.exportEntries : Item → List (String × ExportTarget)
  | .imports _ => []
  | .declares d => if d.exported then [(d.name, .own d.name)] else []
  | .exports l => l.exportEntries

def Program.exportEntries (p : Program) : List (String × ExportTarget) :=
  p.items.flatMap Item.exportEntries

namespace Harness

def assignAll (m : String → Option ExportTarget) (es : List (String × ExportTarget)) :
    String → Option ExportTarget :=
  es.foldl (fun m e => Function.update m e.1 (some e.2)) m

/-- How a session reads the exports of its module: first all that are under no internal name, then,
for each symbol whose internal name is exported, that export in place of the symbol. -/
def readBack (symbols : List String) (es : List (String × ExportTarget)) :
    String → Option ExportTarget :=
  symbols.foldl
    (fun m name =>
      match es.lookup (internalName name) with
      | some target => Function.update m name (some target)
      | none => m)
    (assignAll (fun _ => none) (es.filter fun e => !isInternal e.1))

theorem assignAll_of_notMem {es : List (String × ExportTarget)} {name : String}
    (h : ∀ t, (name, t) ∉ es) (m : String → Option ExportTarget) :
    assignAll m es name = m name := by
  induction es generalizing m with
  | nil => rfl
  | cons e es ih =>
    have he : name ≠ e.1 := by
      rintro rfl
      exact h e.2 List.mem_cons_self
    have hr : assignAll m (e :: es) = assignAll (Function.update m e.1 (some e.2)) es := rfl
    rw [hr, ih fun t ht => h t (List.mem_cons_of_mem _ ht), Function.update_of_ne he]

theorem assignAll_of_mem {es : List (String × ExportTarget)} {name : String} {t : ExportTarget}
    (h : (name, t) ∈ es) (hu : ∀ t', (name, t') ∈ es → t' = t) (m : String → Option ExportTarget) :
    assignAll m es name = some t := by
  induction es generalizing m with
  | nil => simp at h
  | cons e es ih =>
    have hr : assignAll m (e :: es) = assignAll (Function.update m e.1 (some e.2)) es := rfl
    rw [hr]
    by_cases hm : (name, t) ∈ es
    · exact ih hm (fun t' ht' => hu t' (List.mem_cons_of_mem _ ht')) _
    · have he : e = (name, t) := ((List.mem_cons.1 h).resolve_right hm).symm
      have hn : ∀ t', (name, t') ∉ es := fun t' ht' =>
        hm (hu t' (List.mem_cons_of_mem _ ht') ▸ ht')
      rw [assignAll_of_notMem hn, he, Function.update_self]

theorem lookup_eq_some_of_mem {es : List (String × ExportTarget)} {name : String}
    {t : ExportTarget} (h : (name, t) ∈ es) (hu : ∀ t', (name, t') ∈ es → t' = t) :
    es.lookup name = some t := by
  cases hl : es.lookup name with
  | none =>
    have := List.lookup_eq_none_iff.1 hl _ h
    simp at this
  | some t' =>
    obtain ⟨l₁, l₂, rfl, -⟩ := List.lookup_eq_some_iff.1 hl
    rw [hu t' (by simp)]

theorem lookup_eq_none_of_notMem {es : List (String × ExportTarget)} {name : String}
    (h : ∀ t, (name, t) ∉ es) : es.lookup name = none := by
  rw [List.lookup_eq_none_iff]
  rintro ⟨n, t⟩ he
  have hn : name ≠ n := by
    rintro rfl
    exact h t he
  simpa using hn

/-- A symbol is read as what is exported under its internal name, if anything is. -/
theorem readBack_eq (symbols : List String) (es : List (String × ExportTarget)) (name : String) :
    readBack symbols es name =
      let visible := assignAll (fun _ => none) (es.filter fun e => !isInternal e.1) name
      if name ∈ symbols then (es.lookup (internalName name)).or visible else visible := by
  unfold readBack
  generalize assignAll (fun _ => none) (es.filter fun e => !isInternal e.1) = m
  induction symbols generalizing m with
  | nil => simp
  | cons a symbols ih =>
    rw [List.foldl_cons, ih]
    by_cases ha : name = a
    · subst ha
      cases es.lookup (internalName name) <;> simp
    · cases es.lookup (internalName a) <;> simp [ha, Function.update_of_ne]

end Harness

namespace Program

variable {p q : Program} {name : String}

theorem mem_exportEntries {e : String × ExportTarget} :
    e ∈ p.exportEntries ↔ ∃ i ∈ p.items, e ∈ i.exportEntries := List.mem_flatMap

theorem exports_of_mem_exportEntries {t : ExportTarget} (h : (name, t) ∈ p.exportEntries) :
    p.Exports name := by
  obtain ⟨i, hi, h⟩ := mem_exportEntries.1 h
  refine ⟨i, hi, ?_⟩
  cases i with
  | imports i => simp [Item.exportEntries] at h
  | declares d =>
    cases hd : d.exported
    · simp [Item.exportEntries, hd] at h
    · simp only [Item.exportEntries, hd, if_true, List.mem_singleton, Prod.mk.injEq] at h
      exact ⟨hd, h.1.symm⟩
  | exports l =>
    obtain ⟨s, hs, h⟩ := List.mem_map.1 h
    exact ⟨s, hs, (Prod.mk.inj h).1⟩

/-- Where internal names are not exported, an exposed name is exported, as itself or on behalf of
another module. -/
theorem exists_entry_of_exposes (h : p.Exposes name)
    (hi : ∀ e ∈ p.exportEntries, isInternal e.1 = false) :
    ∃ t, (name, t) ∈ p.exportEntries ∧ (t = .own name ∨ ∃ source n, t = .passedOn source n) := by
  obtain ⟨i, hmem, h⟩ := h
  cases i with
  | imports i => exact h.elim
  | declares d =>
    obtain ⟨hd, rfl⟩ := h
    refine ⟨.own d.name, mem_exportEntries.2 ⟨_, hmem, ?_⟩, Or.inl rfl⟩
    simp [Item.exportEntries, hd]
  | exports l =>
    obtain ⟨s, hs, h⟩ := h
    have hentry : (s.exportedAs, match l.source with
        | none => ExportTarget.own s.name
        | some source => .passedOn source s.name) ∈ p.exportEntries :=
      mem_exportEntries.2 ⟨_, hmem, List.mem_map_of_mem hs⟩
    cases hsource : l.source with
    | some source =>
      simp only [hsource] at hentry
      simp only [ExportSpecifier.Exposes, ExportList.isReexport, hsource, Option.isSome_some,
        if_true] at h
      exact ⟨_, h ▸ hentry, Or.inr ⟨_, _, rfl⟩⟩
    | none =>
      simp only [hsource] at hentry
      simp only [ExportSpecifier.Exposes, ExportList.isReexport, hsource, Option.isSome_none,
        Bool.false_eq_true, if_false] at h
      obtain ⟨rfl, h | h⟩ := h
      · exact ⟨_, h ▸ hentry, Or.inl rfl⟩
      · have := hi _ hentry
        rw [h, isInternal_internalName] at this
        cases this

theorem exposes_of_passedOn {source n : String} (h : (name, .passedOn source n) ∈ p.exportEntries) :
    p.Exposes name := by
  obtain ⟨i, hi, h⟩ := mem_exportEntries.1 h
  refine ⟨i, hi, ?_⟩
  cases i with
  | imports i => simp [Item.exportEntries] at h
  | declares d => cases hd : d.exported <;> simp [Item.exportEntries, hd] at h
  | exports l =>
    obtain ⟨s, hs, h⟩ := List.mem_map.1 h
    refine ⟨s, hs, ?_⟩
    cases hl : l.source with
    | none => simp [hl] at h
    | some source =>
      simpa [ExportSpecifier.Exposes, ExportList.isReexport, hl] using (Prod.mk.inj h).1

theorem mem_exportEntries_of_insertsExports {ss : List ExportStatement}
    (h : InsertsExports ss p.items q.items) (t : ExportTarget) :
    (name, t) ∈ q.exportEntries ↔ (name, t) ∈ p.exportEntries ∨
      ∃ s ∈ ss, s.specifier.exportedAs = name ∧ t = .own s.name := by
  rw [mem_exportEntries, mem_exportEntries]
  refine h.exists_mem fun s span => ?_
  cases s <;>
    simp [ExportStatement.clause, Item.exportEntries, ExportList.exportEntries,
      ExportStatement.specifier, ExportStatement.name, eq_comm]

end Program

namespace Harness

open Extraction

section

variable {p q : Program} (hb : ∀ d ∈ p.bindings, isInternal d.name = false)
  (he : ∀ e ∈ p.exportEntries, isInternal e.1 = false)
  (h : InsertsExports (ofProgram p).statements p.items q.items)

include hb he h in
/-- Under an internal name there is what a hidden statement puts there, and nothing else. -/
theorem mem_exportEntries_internalName (name : String) (t : ExportTarget) :
    (internalName name, t) ∈ q.exportEntries ↔
      .hidden name ∈ (ofProgram p).statements ∧ t = .own name := by
  rw [Program.mem_exportEntries_of_insertsExports h]
  constructor
  · rintro (hp | ⟨s, hs, hn, rfl⟩)
    · have := he _ hp
      rw [isInternal_internalName] at this
      cases this
    · cases s with
      | plain n =>
        have := isInternal_symbol hb (mem_statements_ofProgram p |>.1 hs).1
        rw [show ExportStatement.name (.plain n) = internalName name from hn,
          isInternal_internalName] at this
        cases this
      | hidden n =>
        obtain rfl := internalName_injective hn
        exact ⟨hs, rfl⟩
  · rintro ⟨hs, rfl⟩
    exact Or.inr ⟨_, hs, rfl, rfl⟩

include h in
/-- Under any other name there is what the program exports, and what plain statements add. -/
theorem mem_exportEntries_name {name : String} (hi : isInternal name = false) (t : ExportTarget) :
    (name, t) ∈ q.exportEntries ↔ (name, t) ∈ p.exportEntries ∨
      (.plain name ∈ (ofProgram p).statements ∧ t = .own name) := by
  rw [Program.mem_exportEntries_of_insertsExports h]
  refine or_congr_right ⟨?_, fun ⟨hs, ht⟩ => ⟨_, hs, rfl, ht⟩⟩
  rintro ⟨s, hs, hn, rfl⟩
  cases s with
  | plain n =>
    obtain rfl : n = name := hn
    exact ⟨hs, rfl⟩
  | hidden n =>
    obtain rfl : internalName n = name := hn
    rw [isInternal_internalName] at hi
    cases hi

/-- What is exported under a name that is not internal is visible, if it is the only such export. -/
theorem visible_of_mem {es : List (String × ExportTarget)} {name : String} {t : ExportTarget}
    (hi : isInternal name = false) (hm : (name, t) ∈ es) (hu : ∀ t', (name, t') ∈ es → t' = t) :
    assignAll (fun _ => none) (es.filter fun e => !isInternal e.1) name = some t :=
  assignAll_of_mem (List.mem_filter.2 ⟨hm, by simp [hi]⟩)
    (fun t' ht' => hu t' (List.mem_filter.1 ht').1) _

variable (hu : ∀ name t t', (name, t) ∈ p.exportEntries → (name, t') ∈ p.exportEntries → t = t')

include hb he hu h in
/-- A name that is exposed is read as the export that exposes it. -/
private theorem readBack_exposed {name : String} (hn : name ∈ (ofProgram p).symbols.names)
    (hx : p.Exposes name) :
    ∃ t, readBack (ofProgram p).symbols.names q.exportEntries name = some t ∧
      (name, t) ∈ p.exportEntries ∧ (t = .own name ∨ ∃ source n, t = .passedOn source n) := by
  have hi := isInternal_symbol hb hn
  have hs : ∀ s ∈ (ofProgram p).statements, s.name ≠ name := by
    rintro s hs rfl
    have := ((mem_statements_ofProgram p).1 hs).2
    rw [(ExportTable.statementFor?_eq_none p s.name).2 hx] at this
    cases this
  obtain ⟨t, ht, hkind⟩ := Program.exists_entry_of_exposes hx he
  have hhidden : q.exportEntries.lookup (internalName name) = none :=
    lookup_eq_none_of_notMem fun t' ht' =>
      hs _ ((mem_exportEntries_internalName hb he h name t').1 ht').1 rfl
  have honly : ∀ t', (name, t') ∈ q.exportEntries → t' = t := by
    intro t' ht'
    rcases (mem_exportEntries_name h hi t').1 ht' with hp | ⟨hp, -⟩
    · exact hu name t' t hp ht
    · exact absurd rfl (hs _ hp)
  have hvisible := visible_of_mem hi ((mem_exportEntries_name h hi t).2 (Or.inl ht)) honly
  refine ⟨t, ?_, ht, hkind⟩
  rw [readBack_eq, hvisible, hhidden, if_pos hn, Option.none_or]

include hb he h in
/-- A name that is not exposed is read as the name of this module. -/
private theorem readBack_hidden {name : String} (hn : name ∈ (ofProgram p).symbols.names)
    (hx : ¬p.Exposes name) :
    readBack (ofProgram p).symbols.names q.exportEntries name = some (.own name) := by
  have hi := isInternal_symbol hb hn
  rw [readBack_eq]
  simp only [if_pos hn]
  by_cases ht : p.Takes name
  · have hs : .hidden name ∈ (ofProgram p).statements := (mem_statements_ofProgram p).2
      ⟨hn, (ExportTable.statementFor?_eq_some p name _).2 ⟨hx, Or.inl ⟨ht, rfl⟩⟩⟩
    have hm := mem_exportEntries_internalName hb he h name
    rw [lookup_eq_some_of_mem ((hm _).2 ⟨hs, rfl⟩) fun t' ht' => ((hm t').1 ht').2, Option.some_or]
  · have hst : (ExportTable.ofProgram p).statementFor? name = some (.plain name) :=
      (ExportTable.statementFor?_eq_some p name _).2 ⟨hx, Or.inr ⟨ht, rfl⟩⟩
    have hs : .plain name ∈ (ofProgram p).statements := (mem_statements_ofProgram p).2 ⟨hn, hst⟩
    have hhidden : q.exportEntries.lookup (internalName name) = none := by
      refine lookup_eq_none_of_notMem fun t' ht' => ?_
      have := ((mem_statements_ofProgram p).1
        ((mem_exportEntries_internalName hb he h name t').1 ht').1).2
      rw [show ExportStatement.name (.hidden name) = name from rfl, hst] at this
      cases this
    have hm := mem_exportEntries_name h hi
    rw [hhidden, Option.none_or]
    refine visible_of_mem hi ((hm _).2 (Or.inr ⟨hs, rfl⟩)) fun t' ht' => ?_
    rcases (hm t').1 ht' with hp | ⟨-, ht'⟩
    · have hx' := Program.exports_of_mem_exportEntries hp
      exact absurd (Program.exposes_or_takes_of_exports hx' hi) (not_or.2 ⟨hx, ht⟩)
    · exact ht'

include he hu h in
/-- A name that the program does not bind is read as what the program exports under it. -/
private theorem readBack_unbound {name : String} (hn : name ∉ (ofProgram p).symbols.names) :
    readBack (ofProgram p).symbols.names q.exportEntries name = p.exportEntries.lookup name := by
  rw [readBack_eq]
  simp only [if_neg hn]
  by_cases hp : ∃ t, (name, t) ∈ p.exportEntries
  · obtain ⟨t, ht⟩ := hp
    have hi : isInternal name = false := he _ ht
    have hm := mem_exportEntries_name h hi
    rw [lookup_eq_some_of_mem ht fun t' ht' => hu name t' t ht' ht]
    refine visible_of_mem hi ((hm t).2 (Or.inl ht)) fun t' ht' => ?_
    rcases (hm t').1 ht' with hp | ⟨hs, -⟩
    · exact hu name t' t hp ht
    · exact absurd ((mem_statements_ofProgram p).1 hs).1 hn
  · rw [lookup_eq_none_of_notMem fun t ht => hp ⟨t, ht⟩]
    refine assignAll_of_notMem (fun t ht => ?_) _
    obtain ⟨hq, hi⟩ := List.mem_filter.1 ht
    rcases (mem_exportEntries_name h (by simpa using hi) t).1 hq with hp' | ⟨hs, -⟩
    · exact hp ⟨t, hp'⟩
    · exact hn ((mem_statements_ofProgram p).1 hs).1

include hb he hu h in
/-- Every symbol is found, and stands for its own name in the module or, where the module passes an
export of another one on under that name, for that export. Other exports are what they were. -/
theorem readBack_resolves_symbols :
    (∀ name ∈ (ofProgram p).symbols.names, ∃ t,
      readBack (ofProgram p).symbols.names q.exportEntries name = some t ∧
        ((name, t) ∈ p.exportEntries ∧ (∃ source n, t = .passedOn source n) ∨
          t = .own name ∧ ∀ source n, (name, .passedOn source n) ∉ p.exportEntries)) ∧
    ∀ name ∉ (ofProgram p).symbols.names,
      readBack (ofProgram p).symbols.names q.exportEntries name = p.exportEntries.lookup name := by
  refine ⟨fun name hn => ?_, fun name hn => readBack_unbound he h hu hn⟩
  by_cases hx : p.Exposes name
  · obtain ⟨t, hm, ht, rfl | hkind⟩ := readBack_exposed hb he h hu hn hx
    · exact ⟨_, hm, Or.inr ⟨rfl, fun source n hp => nomatch hu name _ _ ht hp⟩⟩
    · exact ⟨t, hm, Or.inl ⟨ht, hkind⟩⟩
  · exact ⟨_, readBack_hidden hb he h hn hx, Or.inr ⟨rfl, fun source n hp =>
      hx (Program.exposes_of_passedOn hp)⟩⟩

end

/-- Two names of which the first is exported under the second, one that is imported and passed on,
and one that is exported where it is declared. -/
def mixedExports : Program :=
  ⟨[.declares ⟨"a", .variable, false, ⟨6, 7, 1, 7⟩⟩,
    .declares ⟨"b", .variable, false, ⟨18, 19, 2, 7⟩⟩,
    .exports ⟨[⟨"a", "b"⟩], none, ⟨24, 41, 3, 1⟩⟩,
    .imports ⟨[⟨"c", ⟨51, 52, 4, 10⟩⟩], ⟨42, 65, 4, 1⟩⟩,
    .exports ⟨[⟨"x", "c"⟩], some "m", ⟨66, 89, 5, 1⟩⟩,
    .declares ⟨"d", .function, true, ⟨106, 107, 6, 17⟩⟩], ⟨0, 112, 1, 1⟩⟩

theorem readBack_resolves_symbols_mixedExports :
    let p := mixedExports
    let q : Program :=
      ⟨p.items ++ (ofProgram p).statements.map fun s => s.clause ⟨0, 0, 1, 1⟩, p.span⟩
    (∀ d ∈ p.bindings, isInternal d.name = false) ∧
      (∀ e ∈ p.exportEntries, isInternal e.1 = false) ∧
      (∀ name t t', (name, t) ∈ p.exportEntries → (name, t') ∈ p.exportEntries → t = t') ∧
      (ofProgram p).statements = [.plain "a", .hidden "b"] ∧
      ∀ name ∈ ["a", "b", "c", "d"],
        ∃ t, readBack (ofProgram p).symbols.names q.exportEntries name = some t := by
  intro p q
  have hb : ∀ d ∈ p.bindings, isInternal d.name = false := by decide
  have he : ∀ e ∈ p.exportEntries, isInternal e.1 = false := by decide
  have hentries : p.exportEntries =
      [("b", .own "a"), ("c", .passedOn "m" "x"), ("d", .own "d")] := by decide
  have hu : ∀ name t t', (name, t) ∈ p.exportEntries → (name, t') ∈ p.exportEntries → t = t' := by
    intro name t t' ht ht'
    simp only [hentries, List.mem_cons, Prod.mk.injEq, List.not_mem_nil, or_false] at ht ht'
    grind
  refine ⟨hb, he, hu, by decide, fun name hn => ?_⟩
  have hs : (ofProgram p).symbols.names = ["a", "b", "c", "d"] := by decide
  have h : InsertsExports (ofProgram p).statements p.items q.items :=
    .append _ _ fun _ => ⟨0, 0, 1, 1⟩
  obtain ⟨t, ht, -⟩ := (readBack_resolves_symbols hb he h hu).1 name (hs ▸ hn)
  exact ⟨t, ht⟩

end Harness
end TypeScriptRepl
