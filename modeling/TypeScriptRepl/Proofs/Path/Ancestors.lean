import Mathlib.Data.List.DropRight
import TypeScriptRepl.Proofs.Path.Components

/-! The paths above a path, one for each beginning of what it goes through. -/
namespace TypeScriptRepl.Path

/-- The segments up to the last one that names something. -/
def upToName (ss : List (List UInt8)) : List (List UInt8) := ss.rdropWhile (!isNamed ·)

theorem upToName_isPrefixOf (ss : List (List UInt8)) : upToName ss <+: ss := List.rdropWhile_prefix _ ss

theorem isNamed_getLast_upToName (ss : List (List UInt8)) (h : upToName ss ≠ []) :
    isNamed ((upToName ss).getLast h) = true := by
  have hnot := List.rdropWhile_last_not (!isNamed ·) ss h
  rwa [Bool.not_eq_true, Bool.not_eq_false'] at hnot

theorem filter_isNamed_upToName (ss : List (List UInt8)) :
    (upToName ss).filter isNamed = ss.filter isNamed := by
  induction ss using List.reverseRecOn with
  | nil => rfl
  | append_singleton ss s ih =>
    by_cases hs : isNamed s = true
    · rw [upToName, List.rdropWhile_concat_neg _ _ _ (by simp [hs])]
    · rw [upToName, List.rdropWhile_concat_pos _ _ _ (by simp [hs]), ← upToName, ih,
        List.filter_append, List.filter_cons_of_neg hs, List.filter_nil, List.append_nil]

def leadOf (l : List UInt8) : List Component :=
  if l = [slash] then [.root] else if l = [dot] then [.here] else []

theorem components_eq_parts (p : Path) :
    p.components = leadOf p.parts.1 ++ (names p.parts.2).map componentOf := rfl

theorem parts_cases (p : Path) :
    (p.bytes = [] ∧ p.parts = ([], [])) ∨
    (∃ rest, p.bytes = slash :: rest ∧ p.parts = ([slash], rest)) ∨
    (∃ rest, p.bytes = dot :: rest ∧ (rest = [] ∨ ∃ bytes, rest = slash :: bytes) ∧
      p.parts = ([dot], rest)) ∨
    (∃ a rest, p.bytes = a :: rest ∧ a ≠ slash ∧ beginsHere (a :: rest) = false ∧
      p.parts = ([], a :: rest)) := by
  obtain ⟨bytes⟩ := p
  cases bytes with
  | nil => exact Or.inl ⟨rfl, rfl⟩
  | cons a rest =>
    refine Or.inr ?_
    by_cases ha : a = slash
    · subst ha
      exact Or.inl ⟨rest, rfl, rfl⟩
    · by_cases hd : beginsHere (a :: rest) = true
      · have hparts : parts ⟨a :: rest⟩ = ([dot], rest) := (if_neg ha).trans (if_pos hd)
        obtain ⟨rfl, hr⟩ := Bool.and_eq_true_iff.1 hd |>.imp of_decide_eq_true id
        refine Or.inr (Or.inl ⟨rest, rfl, ?_, hparts⟩)
        cases rest with
        | nil => exact Or.inl rfl
        | cons b rest =>
          obtain rfl : b = slash := by simpa using hr
          exact Or.inr ⟨rest, rfl⟩
      · have hparts : parts ⟨a :: rest⟩ = ([], a :: rest) := (if_neg ha).trans (if_neg hd)
        exact Or.inr (Or.inr ⟨a, rest, rfl, ha, Bool.eq_false_iff.2 hd, hparts⟩)

theorem bytes_eq_parts (p : Path) : p.bytes = p.parts.1 ++ p.parts.2 := by
  rcases parts_cases p with ⟨hb, hp⟩ | ⟨rest, hb, hp⟩ | ⟨rest, hb, -, hp⟩ | ⟨a, rest, hb, -, -, hp⟩
  all_goals
    rw [hb, hp]
    rfl

theorem isAbsolute_eq_parts (p : Path) : p.isAbsolute = decide (p.parts.1 = [slash]) := by
  rcases parts_cases p with ⟨hb, hp⟩ | ⟨rest, hb, hp⟩ | ⟨rest, hb, -, hp⟩ | ⟨a, rest, hb, ha, -, hp⟩
  · rw [isAbsolute, hb, hp]
    rfl
  · rw [isAbsolute, hb, hp]
    rfl
  · rw [isAbsolute, hb, hp]
    rfl
  · rw [isAbsolute, hb, hp]
    simpa using ha

/-- Nothing stands at the end of the path that names nothing. -/
def EndsInName (p : Path) : Prop :=
  p.parts.2 = [] ∨ ∃ s, (segments p.parts.2).getLast? = some s ∧ isNamed s = true

theorem intercalate_append (ss : List (List UInt8)) {ts : List (List UInt8)} (hs : ss ≠ [])
    (ht : ts ≠ []) :
    [slash].intercalate (ss ++ ts) = [slash].intercalate ss ++ slash :: [slash].intercalate ts := by
  induction ss with
  | nil => exact absurd rfl hs
  | cons s ss ih =>
    cases ss with
    | nil =>
      obtain ⟨t, ts, rfl⟩ := List.exists_cons_of_ne_nil ht
      simp [List.intercalate_cons_cons]
    | cons u us =>
      rw [List.cons_append, List.cons_append, List.intercalate_cons_cons, ← List.cons_append,
        ih (List.cons_ne_nil u us), List.intercalate_cons_cons]
      simp

theorem intercalate_isPrefix {ss ts : List (List UInt8)} (h : ss <+: ts) :
    [slash].intercalate ss <+: [slash].intercalate ts := by
  obtain ⟨us, rfl⟩ := h
  by_cases hs : ss = []
  · rw [hs]
    exact List.nil_prefix
  · by_cases hu : us = []
    · simp [hu]
    · rw [intercalate_append ss hs hu]
      exact List.prefix_append _ _

section

variable {p q : Path} {zs : List (List UInt8)}

theorem intercalate_isPrefix_parts (hz : zs <+: segments p.parts.2) :
    [slash].intercalate zs <+: p.parts.2 := by
  have h := intercalate_isPrefix hz
  rwa [intercalate_segments] at h

theorem eq_nil_or_cons_of_isPrefix {w rest : List UInt8} (h : w <+: rest)
    (hr : rest = [] ∨ ∃ bytes, rest = slash :: bytes) : w = [] ∨ ∃ v, w = slash :: v := by
  rcases hr with rfl | ⟨bytes, rfl⟩
  · exact Or.inl (List.prefix_nil.1 h)
  · rcases List.prefix_cons_iff.1 h with hw | ⟨v, hw, -⟩
    · exact Or.inl hw
    · exact Or.inr ⟨v, hw⟩

/-- Only a lone dot stands for the current directory where the longer text does not. -/
theorem beginsHere_of_isPrefix {w bytes : List UInt8} (h : w <+: bytes)
    (hb : beginsHere bytes = false) (hdot : w ≠ [dot]) : beginsHere w = false := by
  obtain ⟨more, rfl⟩ := h
  rw [Bool.eq_false_iff]
  intro hw
  match w with
  | [] => cases hw
  | [a] =>
    obtain ⟨ha, -⟩ := Bool.and_eq_true_iff.1 hw
    exact hdot (congrArg (fun b => [b]) (of_decide_eq_true ha))
  | a :: c :: w =>
    have hsame : beginsHere (a :: c :: w ++ more) = beginsHere (a :: c :: w) := rfl
    rw [hsame, hw] at hb
    cases hb

/-- A dot alone is no name, so that nothing can be cut off after it. -/
theorem intercalate_ne_dot (hz : zs <+: segments p.parts.2)
    (hlast : ∀ h : zs ≠ [], isNamed (zs.getLast h) = true) : [slash].intercalate zs ≠ [dot] := by
  intro hi
  have hslash : ∀ z ∈ zs, slash ∉ z := fun z hmem =>
    slash_notMem_of_mem_split List.not_mem_nil (hz.subset hmem)
  have hne : zs ≠ [] := by
    rintro rfl
    cases hi
  have hsegments : zs = [[dot]] := by
    rw [← List.splitOn_intercalate slash hslash hne, hi]
    rfl
  subst hsegments
  have hdot := hlast (List.cons_ne_nil _ _)
  exact absurd hdot (by decide)

/-- A path that is cut off after a name begins as before. -/
theorem parts_cutOff (hz : zs <+: segments p.parts.2)
    (hlast : ∀ h : zs ≠ [], isNamed (zs.getLast h) = true) :
    parts ⟨p.parts.1 ++ [slash].intercalate zs⟩ = (p.parts.1, [slash].intercalate zs) := by
  have hbegins := intercalate_isPrefix_parts hz
  have hne := intercalate_ne_dot hz hlast
  generalize [slash].intercalate zs = w at hbegins hne
  rcases parts_cases p with ⟨-, hp⟩ | ⟨rest, -, hp⟩ | ⟨rest, -, hr, hp⟩ | ⟨a, rest, -, ha, hd, hp⟩
  · rw [hp] at hbegins ⊢
    rw [List.prefix_nil.1 hbegins]
    rfl
  · rw [hp]
    rfl
  · rw [hp] at hbegins ⊢
    rcases eq_nil_or_cons_of_isPrefix hbegins hr with rfl | ⟨v, rfl⟩
    · rfl
    · rfl
  · rw [hp] at hbegins ⊢
    have hhere := beginsHere_of_isPrefix hbegins hd hne
    rcases List.prefix_cons_iff.1 hbegins with rfl | ⟨v, rfl, -⟩
    · rfl
    · exact (if_neg ha).trans (if_neg (Bool.not_eq_true _ ▸ hhere))

theorem parent?_eq (p : Path) : p.parent? =
    match (segments p.parts.2).reverse.dropWhile (!isNamed ·) with
    | [] => if p.parts.1 = [dot] then some empty else none
    | _ :: before =>
      some ⟨p.parts.1 ++ [slash].intercalate (before.dropWhile (!isNamed ·)).reverse⟩ := rfl

/-- The parent of a path whose last name is `s`, after the segments `before`. -/
theorem parent?_of_upToName {before : List (List UInt8)} {s : List UInt8}
    (h : upToName (segments p.parts.2) = before ++ [s]) :
    p.parent? = some ⟨p.parts.1 ++ [slash].intercalate (upToName before)⟩ := by
  have hreverse : (segments p.parts.2).reverse.dropWhile (!isNamed ·) = s :: before.reverse := by
    have hr := congrArg List.reverse h
    rwa [upToName, List.rdropWhile, List.reverse_reverse, List.reverse_append,
      List.reverse_singleton, List.singleton_append] at hr
  rw [parent?_eq, hreverse]
  rfl

theorem parent?_of_upToName_eq_nil (h : upToName (segments p.parts.2) = []) :
    p.parent? = if p.parts.1 = [dot] then some empty else none := by
  have hreverse : (segments p.parts.2).reverse.dropWhile (!isNamed ·) = [] := by
    have hr := congrArg List.reverse h
    rwa [upToName, List.rdropWhile, List.reverse_reverse, List.reverse_nil] at hr
  rw [parent?_eq, hreverse]

end

structure IsParent (q p : Path) : Prop where
  components : p.components ≠ [] ∧ q.components = p.components.dropLast
  begins : q.bytes <+: p.bytes
  rooted : q.isAbsolute = p.isAbsolute
  ends : q.EndsInName

section

variable {p q : Path}

theorem segments_intercalate {zs : List (List UInt8)} (hslash : ∀ z ∈ zs, slash ∉ z) (hne : zs ≠ []) :
    segments ([slash].intercalate zs) = zs := by
  rw [segments_eq, List.splitOn_intercalate slash hslash hne]

theorem names_intercalate {zs : List (List UInt8)} (hslash : ∀ z ∈ zs, slash ∉ z) :
    names ([slash].intercalate zs) = zs.filter isNamed := by
  by_cases hz : zs = []
  · rw [hz]
    rfl
  · rw [names, segments_intercalate hslash hz]

theorem components_of_upToName_eq_nil (h : upToName (segments p.parts.2) = []) :
    p.components = leadOf p.parts.1 := by
  rw [components_eq_parts, names, ← filter_isNamed_upToName, h]
  exact List.append_nil _

theorem isParent_empty (hnil : upToName (segments p.parts.2) = []) (hdot : p.parts.1 = [dot]) :
    empty.IsParent p := by
  have hc : p.components = [.here] := by
    rw [components_of_upToName_eq_nil hnil, hdot]
    rfl
  have ha : p.isAbsolute = false := by
    rw [isAbsolute_eq_parts, hdot]
    rfl
  constructor
  · rw [hc]
    exact ⟨List.cons_ne_nil _ _, rfl⟩
  · exact List.nil_prefix
  · rw [ha]
    rfl
  · exact Or.inl rfl

/-- A path is cut off after its last name but one. -/
theorem isParent_cutOff {before : List (List UInt8)} {s : List UInt8}
    (hconcat : upToName (segments p.parts.2) = before ++ [s]) :
    IsParent ⟨p.parts.1 ++ [slash].intercalate (upToName before)⟩ p := by
  have hbefore : upToName before <+: segments p.parts.2 := by
    have hs : before ++ [s] <+: segments p.parts.2 := hconcat ▸ upToName_isPrefixOf _
    exact (upToName_isPrefixOf before).trans ((List.prefix_append before [s]).trans hs)
  have hslash : ∀ z ∈ upToName before, slash ∉ z := fun z hz =>
    slash_notMem_of_mem_split List.not_mem_nil (hbefore.subset hz)
  have hparts := parts_cutOff hbefore (isNamed_getLast_upToName before)
  have hnamed : isNamed s = true := by
    have hlast := isNamed_getLast_upToName (segments p.parts.2) (by simp [hconcat])
    simpa [hconcat] using hlast
  have hnames : names p.parts.2 = (upToName before).filter isNamed ++ [s] := by
    rw [names, ← filter_isNamed_upToName, hconcat, List.filter_append,
      filter_isNamed_upToName before, List.filter_cons_of_pos hnamed, List.filter_nil]
  have hcomponents : p.components =
      components ⟨p.parts.1 ++ [slash].intercalate (upToName before)⟩ ++ [componentOf s] := by
    rw [components_eq_parts p, components_eq_parts ⟨_⟩, hparts, names_intercalate hslash, hnames,
      List.map_append, ← List.append_assoc]
    rfl
  constructor
  · rw [hcomponents]
    exact ⟨by simp, List.dropLast_concat.symm⟩
  · rw [bytes_eq_parts p]
    exact (List.prefix_append_right_inj _).2 (intercalate_isPrefix_parts hbefore)
  · rw [isAbsolute_eq_parts, isAbsolute_eq_parts p, hparts]
  · rw [EndsInName, hparts]
    by_cases hz : upToName before = []
    · rw [hz]
      exact Or.inl rfl
    · right
      rw [segments_intercalate hslash hz]
      exact ⟨_, List.getLast?_eq_some_getLast hz, isNamed_getLast_upToName before hz⟩

theorem isParent_of_parent? (h : p.parent? = some q) : q.IsParent p := by
  rcases List.eq_nil_or_concat' (upToName (segments p.parts.2)) with hnil | ⟨before, s, hconcat⟩
  · rw [parent?_of_upToName_eq_nil hnil] at h
    split at h
    · rename_i hdot
      obtain rfl := Option.some.inj h
      exact isParent_empty hnil hdot
    · cases h
  · rw [parent?_of_upToName hconcat] at h
    obtain rfl := Option.some.inj h
    exact isParent_cutOff hconcat

theorem components_of_parent?_eq_none (h : p.parent? = none) :
    p.components = [] ∨ p.components = [.root] := by
  rcases List.eq_nil_or_concat' (upToName (segments p.parts.2)) with hnil | ⟨before, s, hconcat⟩
  · rw [components_of_upToName_eq_nil hnil, leadOf]
    rw [parent?_of_upToName_eq_nil hnil] at h
    split
    · exact Or.inr rfl
    · split
      · rename_i hdot
        rw [if_pos hdot] at h
        cases h
      · exact Or.inl rfl
  · rw [parent?_of_upToName hconcat] at h
    cases h

end

/-! A beginning of a text that ends in a name goes through less than the whole text. -/

theorem isNamed_append {s : List UInt8} (h : isNamed s = true) (u : List UInt8) :
    isNamed (s ++ u) = true := by
  cases s with
  | nil => cases h
  | cons a s =>
    rw [isNamed, Bool.and_eq_true] at h ⊢
    refine ⟨rfl, ?_⟩
    cases s with
    | nil =>
      cases u with
      | nil => exact h.2
      | cons b u => simp
    | cons b s => simp

/-- What comes after a text goes on with its last segment. -/
theorem split_append (bytes segment : List UInt8) : ∃ before s,
    split bytes segment = before ++ [s] ∧
      ∀ more, split (bytes ++ more) segment = before ++ split more s.reverse := by
  induction bytes generalizing segment with
  | nil => exact ⟨[], segment.reverse, rfl, fun more => by rw [List.reverse_reverse]; rfl⟩
  | cons b bytes ih =>
    by_cases hb : b = slash
    · obtain ⟨before, s, hs, hmore⟩ := ih []
      refine ⟨segment.reverse :: before, s, ?_, fun more => ?_⟩
      · rw [split, if_pos hb, hs, List.cons_append]
      · rw [List.cons_append, split, if_pos hb, hmore, List.cons_append]
    · obtain ⟨before, s, hs, hmore⟩ := ih (b :: segment)
      refine ⟨before, s, ?_, fun more => ?_⟩
      · rw [split, if_neg hb, hs]
      · rw [List.cons_append, split, if_neg hb, hmore]

theorem split_cons (bytes segment : List UInt8) : ∃ u rest,
    split bytes segment = (segment.reverse ++ u) :: rest ∧ (u = [] → rest = [] → bytes = []) := by
  induction bytes generalizing segment with
  | nil => exact ⟨[], [], by rw [List.append_nil]; rfl, fun _ _ => rfl⟩
  | cons b bytes ih =>
    by_cases hb : b = slash
    · refine ⟨[], split bytes [], by rw [List.append_nil, split, if_pos hb], fun _ hr => ?_⟩
      obtain ⟨_, _, hs, -⟩ := ih []
      rw [hs] at hr
      cases hr
    · obtain ⟨u, rest, hs, -⟩ := ih (b :: segment)
      refine ⟨b :: u, rest, ?_, fun hu => absurd hu (List.cons_ne_nil b u)⟩
      rw [split, if_neg hb, hs, List.reverse_cons, List.append_assoc]
      rfl

theorem eq_of_names_eq {bytes bytes' : List UInt8} (h : bytes <+: bytes')
    (hn : names bytes = names bytes')
    (hlast : ∃ s, (segments bytes').getLast? = some s ∧ isNamed s = true) : bytes = bytes' := by
  obtain ⟨more, rfl⟩ := h
  obtain ⟨before, s, hs, happend⟩ := split_append bytes []
  obtain ⟨u, rest, hmore, hempty⟩ := split_cons more s.reverse
  have hsegments : segments (bytes ++ more) = before ++ (s ++ u) :: rest := by
    rw [segments, happend, hmore, List.reverse_reverse]
  have hfilter : [s].filter isNamed = ((s ++ u) :: rest).filter isNamed := by
    rw [names, names, hsegments, segments, hs, List.filter_append, List.filter_append] at hn
    exact List.append_cancel_left hn
  obtain ⟨t, ht, hnamed⟩ := hlast
  rw [hsegments, List.getLast?_append, List.getLast?_cons, Option.some_or] at ht
  cases rest with
  | nil =>
    obtain rfl : s ++ u = t := Option.some.inj ht
    rw [List.filter_cons_of_pos hnamed, List.filter_nil] at hfilter
    have hmem : s ++ u ∈ [s].filter isNamed := hfilter ▸ List.mem_singleton_self _
    have hu : s ++ u = s := List.mem_singleton.1 (List.mem_filter.1 hmem).1
    rw [hempty (List.append_right_eq_self.1 hu) rfl, List.append_nil]
  | cons r rest =>
    -- the last name would be one more than the shorter text goes through
    have hmem : t ∈ (r :: rest).filter isNamed := by
      rw [List.getLast?_eq_some_getLast (List.cons_ne_nil r rest), Option.getD_some] at ht
      exact List.mem_filter.2 ⟨Option.some.inj ht ▸ List.getLast_mem _, hnamed⟩
    by_cases hname : isNamed s = true
    · rw [List.filter_cons_of_pos hname, List.filter_cons_of_pos (isNamed_append hname u)] at hfilter
      rw [← (List.cons.inj hfilter).2] at hmem
      cases hmem
    · rw [List.filter_cons_of_neg hname, List.filter_nil] at hfilter
      have hsub : t ∈ ((s ++ u) :: r :: rest).filter isNamed :=
        ((List.sublist_cons_self _ _).filter isNamed).subset hmem
      rw [← hfilter] at hsub
      cases hsub

theorem componentOf_injective : Function.Injective componentOf := by
  intro s t h
  unfold componentOf at h
  split at h
  · split at h
    · simp_all
    · cases h
  · split at h
    · cases h
    · exact Component.named.inj h

theorem dot_ne_slash : dot ≠ slash := by decide

theorem componentOf_ne (s : List UInt8) : componentOf s ≠ .root ∧ componentOf s ≠ .here := by
  unfold componentOf
  split <;> simp

theorem root_mem_components (p : Path) : .root ∈ p.components ↔ p.parts.1 = [slash] := by
  rw [components_eq_parts, leadOf]
  split
  · simp [*]
  · split <;> simp [*, componentOf_ne, dot_ne_slash]

theorem here_mem_components (p : Path) : .here ∈ p.components ↔ p.parts.1 = [dot] := by
  rw [components_eq_parts, leadOf]
  split
  · simp [*, componentOf_ne, dot_ne_slash.symm]
  · split <;> simp [*, componentOf_ne]

theorem parts_of_components_eq {p q : Path} (h : p.components = q.components) :
    p.parts.1 = q.parts.1 ∧ names p.parts.2 = names q.parts.2 := by
  have hroot : p.parts.1 = [slash] ↔ q.parts.1 = [slash] := by
    rw [← root_mem_components, ← root_mem_components, h]
  have hhere : p.parts.1 = [dot] ↔ q.parts.1 = [dot] := by
    rw [← here_mem_components, ← here_mem_components, h]
  have hlead (p : Path) : p.parts.1 = [] ∨ p.parts.1 = [slash] ∨ p.parts.1 = [dot] := by
    rcases parts_cases p with ⟨-, hp⟩ | ⟨rest, -, hp⟩ | ⟨rest, -, -, hp⟩ | ⟨a, rest, -, -, -, hp⟩
    all_goals simp [hp]
  have hparts : p.parts.1 = q.parts.1 := by
    rcases hlead p with hp | hp | hp
    · rcases hlead q with hq | hq | hq
      · rw [hp, hq]
      · rw [hroot.2 hq, hq]
      · rw [hhere.2 hq, hq]
    · rw [hroot.1 hp, hp]
    · rw [hhere.1 hp, hp]
  rw [components_eq_parts, components_eq_parts, hparts] at h
  exact ⟨hparts, List.map_injective_iff.2 componentOf_injective (List.append_cancel_left h)⟩

/-- A beginning of the text that goes through as much is the whole text. -/
theorem eq_of_components_eq {p q : Path} (h : p.bytes <+: q.bytes)
    (hc : p.components = q.components) (he : q.EndsInName) : p = q := by
  obtain ⟨hlead, hnames⟩ := parts_of_components_eq hc
  have hrest : p.parts.2 = q.parts.2 := by
    rw [bytes_eq_parts p, bytes_eq_parts q, hlead] at h
    have hbegins := (List.prefix_append_right_inj _).1 h
    rcases he with hnil | hlast
    · rw [hnil] at hbegins ⊢
      exact List.prefix_nil.1 hbegins
    · exact eq_of_names_eq hbegins hnames hlast
  have hbytes : p.bytes = q.bytes := by rw [bytes_eq_parts p, bytes_eq_parts q, hlead, hrest]
  cases p
  cases q
  exact congrArg Path.mk hbytes

/-- `q` is `p`, or a path above it: the shortest beginning of the text of `p` that goes through some
of its first components. -/
structure IsAncestor (q p : Path) : Prop where
  begins : q.bytes <+: p.bytes
  through : q.components <+: p.components
  rooted : q.isAbsolute = p.isAbsolute
  shortest : q = p ∨ (q.components ≠ p.components ∧
    ∀ r : Path, r.bytes <+: p.bytes → r.components = q.components → q.bytes <+: r.bytes)

section

variable {p q r : Path}

theorem IsAncestor.refl (p : Path) : p.IsAncestor p :=
  ⟨List.prefix_refl _, List.prefix_refl _, rfl, Or.inl rfl⟩

/-- A path has one ancestor at most that goes through some of its components. -/
theorem IsAncestor.eq_of_components_eq (hq : q.IsAncestor p) (hr : r.IsAncestor p)
    (h : q.components = r.components) : q = r := by
  rcases hq.shortest with rfl | ⟨hqp, hq'⟩
  · rcases hr.shortest with rfl | ⟨hrp, -⟩
    · rfl
    · exact absurd h.symm hrp
  · rcases hr.shortest with rfl | ⟨-, hr'⟩
    · exact absurd h hqp
    · have hbytes : q.bytes = r.bytes :=
        (hq' r hr.begins h.symm).eq_of_length_le (hr' q hq.begins h).length_le
      cases q
      cases r
      exact congrArg Path.mk hbytes

/-- What ends in a name and goes through less of a path is above it. -/
theorem isAncestor_of_endsInName (hb : q.bytes <+: p.bytes) (ht : q.components <+: p.components)
    (ha : q.isAbsolute = p.isAbsolute) (hne : q.components ≠ p.components) (he : q.EndsInName) :
    q.IsAncestor p := by
  refine ⟨hb, ht, ha, Or.inr ⟨hne, fun r hr hc => ?_⟩⟩
  rcases List.prefix_or_prefix_of_prefix hb hr with h | h
  · exact h
  · obtain rfl := Path.eq_of_components_eq h hc he
    exact List.prefix_refl _

end

end TypeScriptRepl.Path
