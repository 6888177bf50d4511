import Mathlib
import TypeScriptRepl.Toml.Document

/-! No table has a name twice, at any depth. -/
namespace TypeScriptRepl.Toml

theorem Except.bind_eq_ok_iff {ε α β : Type} {x : Except ε α} {f : α → Except ε β} {b : β} :
    x >>= f = .ok b ↔ ∃ a, x = .ok a ∧ f a = .ok b := by
  constructor
  · intro h
    cases x with
    | error e => cases h
    | ok a => exact ⟨a, rfl, h⟩
  · rintro ⟨a, rfl, h⟩
    exact h

def entryNames (entries : List (Key × Item)) : List String := entries.map (·.1.name)

/-- No table in the item has a name twice, and the tables of an array have headers. -/
inductive Item.IsProper : Item → Prop
  | string (text range) : (string text range).IsProper
  | integer (n range) : (integer n range).IsProper
  | float (x range) : (float x range).IsProper
  | boolean (b range) : (boolean b range).IsProper
  | datetime (range) : (datetime range).IsProper
  | array {items range} (h : ∀ i ∈ items, i.IsProper) : (array items range).IsProper
  | table {style range entries} (hnames : (entryNames entries).Nodup)
    (h : ∀ e ∈ entries, e.2.IsProper) : (table style range entries).IsProper
  | tables {elements} (hheaders : ∀ i ∈ elements, ∃ range entries, i = .table .header range entries)
    (h : ∀ i ∈ elements, i.IsProper) : (tables elements).IsProper

def AreProper (entries : List (Key × Item)) : Prop :=
  (entryNames entries).Nodup ∧ ∀ e ∈ entries, e.2.IsProper

variable {entries : List (Key × Item)} {name : String} {i : Item}

theorem lookup?_eq_none_iff : lookup? name entries = none ↔ name ∉ entryNames entries := by
  simp [lookup?, entryNames]

theorem exists_mem_of_lookup? (h : lookup? name entries = some i) :
    ∃ k, (k, i) ∈ entries ∧ k.name = name := by
  obtain ⟨⟨k, j⟩, hfind, rfl⟩ := Option.map_eq_some_iff.1 h
  exact ⟨k, List.mem_of_find?_eq_some hfind, by simpa using List.find?_some hfind⟩

theorem lookup?_cons (name : String) (e : Key × Item) (entries : List (Key × Item)) :
    lookup? name (e :: entries) = if e.1.name = name then some e.2 else lookup? name entries := by
  rw [lookup?, List.find?_cons]
  by_cases h : e.1.name = name <;> simp [h, lookup?]

theorem lookup?_of_mem {e : Key × Item} (hnames : (entryNames entries).Nodup) (h : e ∈ entries) :
    lookup? e.1.name entries = some e.2 := by
  induction entries with
  | nil => cases h
  | cons first entries ih =>
    obtain ⟨hfresh, hnames⟩ := List.nodup_cons.1 hnames
    rw [lookup?_cons]
    rcases List.mem_cons.1 h with rfl | h
    · rw [if_pos rfl]
    · rw [if_neg, ih hnames h]
      intro hname
      have hmem : e.1.name ∈ entryNames entries := List.mem_map_of_mem h
      rw [← hname] at hmem
      exact hfresh hmem

theorem areProper_nil : AreProper [] := ⟨List.nodup_nil, by simp⟩

theorem AreProper.isProper (h : AreProper entries) (style : TableStyle) (range : Option Range) :
    (Item.table style range entries).IsProper := .table h.1 h.2

theorem AreProper.isProper_of_lookup? (h : AreProper entries) (hi : lookup? name entries = some i) :
    i.IsProper := by
  obtain ⟨k, hmem, -⟩ := exists_mem_of_lookup? hi
  exact h.2 _ hmem

theorem AreProper.append (h : AreProper entries) {k : Key} (hk : lookup? k.name entries = none)
    (hi : i.IsProper) : AreProper (entries ++ [(k, i)]) := by
  rw [lookup?_eq_none_iff] at hk
  constructor
  · rw [entryNames, List.map_append, List.map_singleton, List.nodup_append]
    refine ⟨h.1, List.nodup_singleton _, ?_⟩
    rintro a ha b hb rfl
    rw [List.mem_singleton] at hb
    exact hk (hb ▸ ha)
  · intro e he
    rcases List.mem_append.1 he with he | he
    · exact h.2 e he
    · rw [List.mem_singleton.1 he]
      exact hi

theorem entryNames_replace (name : String) (i : Item) (entries : List (Key × Item)) :
    entryNames (replace name i entries) = entryNames entries := by
  rw [entryNames, replace, List.map_map]
  apply List.map_congr_left
  intro e he
  rw [Function.comp_apply]
  split <;> rfl

theorem AreProper.replace (h : AreProper entries) (name : String) (hi : i.IsProper) :
    AreProper (replace name i entries) := by
  refine ⟨(entryNames_replace name i entries).symm ▸ h.1, ?_⟩
  intro e he
  obtain ⟨e', he', rfl⟩ := List.mem_map.1 he
  split
  · exact hi
  · exact h.2 e' he'

theorem AreProper.remove (h : AreProper entries) (name : String) :
    AreProper (remove name entries) ∧ lookup? name (remove name entries) = none := by
  refine ⟨⟨?_, ?_⟩, ?_⟩
  · exact h.1.sublist (List.filter_sublist.map _)
  · intro e he
    exact h.2 e (List.mem_of_mem_filter he)
  · rw [lookup?_eq_none_iff, entryNames, Toml.remove]
    simp

namespace Table

theorem areProper_entriesOf {i : Item} (h : i.IsProper) : AreProper (entriesOf i) := by
  cases h with
  | table hnames hitems => exact ⟨hnames, hitems⟩
  | _ => exact areProper_nil

/-- The edit keeps a table proper, and leaves it a table of the same style. -/
def Edit.IsSafe (f : Edit) : Prop :=
  ∀ ⦃style range entries i⦄, AreProper entries → f style range entries = .ok i →
    ∃ range' entries', i = .table style range' entries' ∧ AreProper entries'

/-- What a step down a path does to the entries of a table, where `inner` is what the rest of the path
does. -/
inductive Descends (dotted : Bool) (inner : Edit) (k : Key) (entries : List (Key × Item)) :
    List (Key × Item) → Prop
  | made {made} (hnone : lookup? k.name entries = none)
      (h : inner (if dotted then .dotted else .implied) none [] = .ok made) :
      Descends dotted inner k entries (entries ++ [(k, made)])
  | last {elements last last'} (hsome : lookup? k.name entries = some (.tables elements))
      (hlast : elements.getLast? = some last) (h : edit inner last = .ok last') :
      Descends dotted inner k entries (replace k.name (.tables (elements.dropLast ++ [last'])) entries)
  | table {style range innerEntries i}
      (hsome : lookup? k.name entries = some (.table style range innerEntries))
      (hinline : style ≠ .inline) (hheader : dotted = true → style ≠ .header)
      (h : inner style range innerEntries = .ok i) :
      Descends dotted inner k entries (replace k.name i entries)

theorem descends_of_descend {dotted : Bool} {f : Edit} {k : Key} {ks : List Key}
    {before : List String} {style : TableStyle} {range : Option Range} {j : Item}
    (h : descend dotted f (k :: ks) before style range entries = .ok j) :
    ∃ entries', j = .table style range entries' ∧
      Descends dotted (descend dotted f ks (before ++ [k.name])) k entries entries' := by
  dsimp only [Table.descend] at h
  split at h
  · rename_i hnone
    obtain ⟨made, hmade, hj⟩ := Except.bind_eq_ok_iff.1 h
    cases hj
    exact ⟨_, rfl, .made hnone hmade⟩
  · rename_i elements hsome
    split at h
    · cases h
    · rename_i last hlast
      obtain ⟨last', hlast', hj⟩ := Except.bind_eq_ok_iff.1 h
      cases hj
      exact ⟨_, rfl, .last hsome hlast hlast'⟩
  · rename_i innerStyle innerRange innerEntries hsome
    split at h
    · cases h
    · rename_i hundotted
      split at h
      · cases h
      · rename_i hdotted
        obtain ⟨i, hi, hj⟩ := Except.bind_eq_ok_iff.1 h
        cases hj
        have hinline : innerStyle ≠ .inline := by
          rintro rfl
          cases dotted
          · exact hundotted ⟨rfl, rfl⟩
          · exact hdotted ⟨rfl, Or.inr rfl⟩
        exact ⟨_, rfl, .table hsome hinline (fun hd hs => hdotted ⟨hd, Or.inl hs⟩) hi⟩
  · cases h

/-- By induction on the path: the table that the rest of the path leads to is edited, and everything
else stays. -/
theorem Edit.IsSafe.descend {f : Edit} (hf : f.IsSafe) (dotted : Bool) (ks : List Key)
    (before : List String) : (descend dotted f ks before).IsSafe := by
  induction ks generalizing before with
  | nil => exact hf
  | cons k ks ih =>
    intro style range entries j hentries h
    have hinner := ih (before ++ [k.name])
    obtain ⟨entries', rfl, hstep⟩ := descends_of_descend h
    refine ⟨range, entries', rfl, ?_⟩
    cases hstep with
    | made hnone hmade =>
      obtain ⟨range', inner', rfl, hproper⟩ := hinner areProper_nil hmade
      exact hentries.append hnone (hproper.isProper _ _)
    | last hsome hlast hlast' =>
      have helements := hentries.isProper_of_lookup? hsome
      cases helements with
      | tables hheaders helements =>
        have hmem := List.mem_of_getLast? hlast
        obtain ⟨lastRange, lastEntries, rfl⟩ := hheaders _ hmem
        have hlastProper := areProper_entriesOf (helements _ hmem)
        obtain ⟨range', inner', rfl, hproper⟩ := hinner hlastProper hlast'
        have hrest := fun i hi => helements i (List.mem_of_mem_dropLast hi)
        have hrestHeaders := fun i hi => hheaders i (List.mem_of_mem_dropLast hi)
        refine hentries.replace k.name (.tables ?_ ?_)
        · exact List.forall_mem_append.2 ⟨hrestHeaders, List.forall_mem_singleton.2 ⟨_, _, rfl⟩⟩
        · exact List.forall_mem_append.2 ⟨hrest, List.forall_mem_singleton.2 (hproper.isProper _ _)⟩
    | table hsome _ _ hi =>
      have hinnerProper := areProper_entriesOf (hentries.isProper_of_lookup? hsome)
      obtain ⟨range', inner', rfl, hproper⟩ := hinner hinnerProper hi
      exact hentries.replace k.name (hproper.isProper _ _)

theorem put_eq_ok {dotted : Bool} {k : Key} {v : Item} {known : Option (List String)}
    {style : TableStyle} {range : Option Range} {i : Item}
    (h : put dotted k v known style range entries = .ok i) :
    (dotted = true → style = .dotted) ∧ lookup? k.name entries = none ∧
      i = .table style range (entries ++ [(k, v)]) := by
  unfold put at h
  split at h
  · cases h
  · rename_i hdotted
    split at h
    · cases h
    · rename_i hnone
      cases h
      rw [not_and, not_not] at hdotted
      rw [Bool.not_eq_true, Option.isSome_eq_false_iff, Option.isNone_iff_eq_none] at hnone
      exact ⟨hdotted, hnone, rfl⟩

theorem isSafe_put (dotted : Bool) (k : Key) {v : Item} (hv : v.IsProper)
    (known : Option (List String)) : (put dotted k v known).IsSafe := by
  intro style range entries i hentries h
  obtain ⟨-, hnone, rfl⟩ := put_eq_ok h
  exact ⟨range, _, rfl, hentries.append hnone hv⟩

theorem isSafe_insert (ks : List Key) {v : Item} (hv : v.IsProper) (known : Option (List String)) :
    (insert ks v known).IsSafe := by
  unfold insert
  split
  · intro style range entries i hentries h
    cases h
    exact ⟨range, entries, rfl, hentries⟩
  · exact (isSafe_put _ _ hv known).descend true _ _

end Table

namespace Draft

theorem areProper_editAt {path : List Key} {f : Table.Edit} (hf : f.IsSafe) {d d' : Draft}
    (hd : AreProper d.entries) (h : editAt path f d = .ok d') : AreProper d'.entries := by
  obtain ⟨i, hi, hd'⟩ := Except.bind_eq_ok_iff.1 h
  obtain ⟨range, entries, rfl, hproper⟩ := hf.descend false path [] hd hi
  cases hd'
  exact hproper

theorem openLast_eq_ok {range : Range} {k : Key} {before : List String} {style : TableStyle}
    {whole : Option Range} {i : Item} (h : openLast range k before style whole entries = .ok i) :
    lookup? k.name entries = none ∧
        i = .table style whole (entries ++ [(k, .table .header (some range) [])]) ∨
      ∃ r inner, lookup? k.name entries = some (.table .implied r inner) ∧
        i = .table style whole (remove k.name entries ++ [(k, .table .header (some range) inner)]) := by
  unfold openLast at h
  split at h
  · rename_i hnone
    cases h
    exact Or.inl ⟨hnone, rfl⟩
  · rename_i r inner hsome
    cases h
    exact Or.inr ⟨r, inner, hsome, rfl⟩
  · cases h

theorem openElement_eq_ok {range : Range} {k : Key} {before : List String} {style : TableStyle}
    {whole : Option Range} {i : Item} (h : openElement range k before style whole entries = .ok i) :
    lookup? k.name entries = none ∧
        i = .table style whole (entries ++ [(k, .tables [.table .header (some range) []])]) ∨
      ∃ elements, lookup? k.name entries = some (.tables elements) ∧
        i = .table style whole
          (replace k.name (.tables (elements ++ [.table .header (some range) []])) entries) := by
  unfold openElement at h
  split at h
  · rename_i hnone
    cases h
    exact Or.inl ⟨hnone, rfl⟩
  · rename_i elements hsome
    cases h
    exact Or.inr ⟨elements, hsome, rfl⟩
  · cases h

theorem isSafe_openLast (range : Range) (k : Key) (before : List String) :
    Table.Edit.IsSafe (openLast range k before) := by
  intro style whole entries i hentries h
  rcases openLast_eq_ok h with ⟨hnone, rfl⟩ | ⟨r, inner, hsome, rfl⟩
  · exact ⟨whole, _, rfl, hentries.append hnone (areProper_nil.isProper _ _)⟩
  · have hinner := Table.areProper_entriesOf (hentries.isProper_of_lookup? hsome)
    obtain ⟨hremoved, hnone⟩ := hentries.remove k.name
    exact ⟨whole, _, rfl, hremoved.append hnone (hinner.isProper _ _)⟩

theorem isSafe_openElement (range : Range) (k : Key) (before : List String) :
    Table.Edit.IsSafe (openElement range k before) := by
  have hfresh : (Item.table .header (some range) []).IsProper := areProper_nil.isProper _ _
  intro style whole entries i hentries h
  rcases openElement_eq_ok h with ⟨hnone, rfl⟩ | ⟨elements, hsome, rfl⟩
  · refine ⟨whole, _, rfl, hentries.append hnone (.tables ?_ ?_)⟩
    · exact List.forall_mem_singleton.2 ⟨_, _, rfl⟩
    · exact List.forall_mem_singleton.2 hfresh
  · have hitem := hentries.isProper_of_lookup? hsome
    cases hitem with
    | tables hheaders helements =>
      refine ⟨whole, _, rfl, hentries.replace k.name (.tables ?_ ?_)⟩
      · exact List.forall_mem_append.2 ⟨hheaders, List.forall_mem_singleton.2 ⟨_, _, rfl⟩⟩
      · exact List.forall_mem_append.2 ⟨helements, List.forall_mem_singleton.2 hfresh⟩

theorem areProper_openTable {element : Bool} {path : List Key} {range : Range} {d d' : Draft}
    (hd : AreProper d.entries) (h : openTable element path range d = .ok d') :
    AreProper d'.entries := by
  unfold openTable at h
  split at h
  · cases h
    exact hd
  · rename_i k _
    obtain ⟨e, he, hd'⟩ := Except.bind_eq_ok_iff.1 h
    cases hd'
    have hsafe : Table.Edit.IsSafe (if element then openElement range k (Table.names path.dropLast)
        else openLast range k (Table.names path.dropLast)) := by
      split
      · exact isSafe_openElement range k _
      · exact isSafe_openLast range k _
    have hproper := areProper_editAt hsafe hd he
    exact hproper

theorem areProper_insert {ks : List Key} {v : Item} (hv : v.IsProper) {d d' : Draft}
    (hd : AreProper d.entries) (h : insert ks v d = .ok d') : AreProper d'.entries := by
  refine areProper_editAt ?_ hd h
  intro style range entries i hentries hi
  exact Table.isSafe_insert ks hv _ hentries hi

end Draft
end TypeScriptRepl.Toml
