import Mathlib
import TypeScriptRepl.Toml.Reader

/-! What a reader reads: a relation of the text before it, of what it gives, and of the text that it leaves.
-/
namespace TypeScriptRepl.Text.Cursor

def Before (c d : Cursor) : Prop :=
  ∃ w, c.rest = w ++ d.rest ∧ d.position.chars = c.position.chars + w.length

theorem Before.refl (c : Cursor) : c.Before c := ⟨[], rfl, rfl⟩

theorem Before.trans {c d e : Cursor} (h : c.Before d) (h' : d.Before e) : c.Before e := by
  obtain ⟨v, hv, hvp⟩ := h
  obtain ⟨w, hw, hwp⟩ := h'
  refine ⟨v ++ w, ?_, ?_⟩
  · rw [hv, hw, List.append_assoc]
  · rw [hwp, hvp, List.length_append, Nat.add_assoc]

theorem chars_push (p : Extent) (c : Char) : (p.push c).chars = p.chars + 1 := by
  unfold Extent.push
  split <;> rfl

theorem before_next {c : Cursor} {a : Char} {rest : List Char} (h : c.rest = a :: rest) :
    c.Before c.next ∧ c.next.rest = rest := by
  obtain ⟨r, p⟩ := c
  cases h
  exact ⟨⟨[a], rfl, chars_push p a⟩, rfl⟩

theorem skipWord?_eq_some {w : List Char} {c d : Cursor} (h : skipWord? w c = some d) :
    c.Before d ∧ c.rest = w ++ d.rest := by
  induction w generalizing c with
  | nil =>
    cases h
    exact ⟨.refl _, rfl⟩
  | cons a w ih =>
    rw [skipWord?] at h
    split at h
    · rename_i hhead
      obtain ⟨rest, hrest⟩ := List.head?_eq_some_iff.1 hhead
      obtain ⟨hbefore, hnext⟩ := before_next hrest
      obtain ⟨hb, hw⟩ := ih h
      refine ⟨hbefore.trans hb, ?_⟩
      rw [hrest, ← hnext, hw, List.cons_append]
    · cases h

theorem before_skipWhile (p : Char → Bool) (c : Cursor) :
    c.Before (c.skipWhile p) ∧ (c.skipWhile p).rest = c.rest.dropWhile p := by
  obtain ⟨cs, e⟩ := c
  induction cs generalizing e with
  | nil => exact ⟨.refl _, rfl⟩
  | cons c cs ih =>
    have hskip : skipWhile p ⟨c :: cs, e⟩ =
        if p c then skipWhile p ⟨cs, e.push c⟩ else ⟨c :: cs, e⟩ := rfl
    rw [hskip]
    by_cases hc : p c
    · rw [if_pos hc, List.dropWhile_cons_of_pos hc]
      have hnext : Before ⟨c :: cs, e⟩ ⟨cs, e.push c⟩ := ⟨[c], rfl, chars_push e c⟩
      exact ⟨hnext.trans (ih _).1, (ih _).2⟩
    · rw [if_neg hc, List.dropWhile_cons_of_neg hc]
      exact ⟨.refl _, rfl⟩

end TypeScriptRepl.Text.Cursor

namespace TypeScriptRepl.Toml.Reader
open Text

variable {α β : Type} {r s : Reader α}
  {G : List Char → α → List Char → Prop} {H : List Char → β → List Char → Prop}

/-- Whatever the reader reads, `G` holds of the text before it, of the value, and of the text after
it. -/
def Reads (r : Reader α) (G : List Char → α → List Char → Prop) : Prop :=
  ∀ ⦃c a d⦄, r c = .done a d → c.Before d ∧ G c.rest a d.rest

theorem Reads.mono {K : List Char → α → List Char → Prop} (h : Reads r G)
    (hK : ∀ cs a rest, G cs a rest → K cs a rest) : Reads r K :=
  fun _ _ _ hr => ⟨(h hr).1, hK _ _ _ (h hr).2⟩

theorem reads_pure {a : α} (h : ∀ cs, G cs a cs) : Reads (pure a) G := by
  intro c b d hr
  cases hr
  exact ⟨.refl _, h _⟩

theorem reads_fail : Reads fail G := by
  intro c b d hr
  cases hr

theorem bind_apply (r : Reader α) (f : α → Reader β) (c : Cursor) : (r >>= f) c =
    match r c with
    | .done a rest => f a rest
    | .miss e => .miss e
    | .halt e => .halt e := rfl

/-- One reader after another one: what the first one says of the text up to the second one is there
when the second one ends. -/
theorem Reads.bind {f : α → Reader β} (h : Reads r G)
    (hf : ∀ a, Reads (f a) fun mid b rest => ∀ cs, G cs a mid → H cs b rest) :
    Reads (r >>= f) H := by
  intro c b d hr
  rw [bind_apply] at hr
  split at hr
  · rename_i a mid hra
    obtain ⟨hb, hG⟩ := h hra
    obtain ⟨hb', hH⟩ := hf a hr
    exact ⟨hb.trans hb', hH _ hG⟩
  · cases hr
  · cases hr

theorem Reads.commit (h : Reads r G) : Reads (commit r) G := by
  intro c a d hr
  unfold Reader.commit at hr
  split at hr
  · cases hr
  · exact h hr

theorem Reads.mapFault (h : Reads r G) (f : Fault → Fault) : Reads (mapFault f r) G := by
  intro c a d hr
  unfold Reader.mapFault at hr
  split at hr
  · rename_i hra
    cases hr
    exact h hra
  · cases hr
  · cases hr

theorem Reads.labelled (h : Reads r G) (label : String) : Reads (labelled label r) G := h.mapFault _

theorem Reads.expecting (h : Reads r G) (expected : List String) : Reads (expecting expected r) G :=
  h.mapFault _

theorem Reads.attempt {H : List Char → Option α → List Char → Prop} (h : Reads r G)
    (hsome : ∀ cs a rest, G cs a rest → H cs (some a) rest) (hnone : ∀ cs, H cs none cs) :
    Reads (attempt r) H := by
  intro c o d hr
  unfold Reader.attempt at hr
  split at hr
  · rename_i hra
    cases hr
    exact ⟨(h hra).1, hsome _ _ _ (h hra).2⟩
  · cases hr
    exact ⟨.refl _, hnone _⟩
  · cases hr

theorem Reads.orElse (h : Reads r G) (h' : Reads s G) : Reads (orElse r s) G := by
  intro c a d hr
  unfold Reader.orElse at hr
  split at hr
  · exact h' hr
  · exact h hr

theorem reads_ahead (r : Reader α) : Reads (ahead r) fun cs _ rest => cs = rest := by
  intro c a d hr
  unfold ahead at hr
  split at hr
  · cases hr
    exact ⟨.refl _, rfl⟩
  · rename_i hne
    exact absurd hr (hne a d)

theorem Reads.check {f : α → Except String β} (h : Reads r G)
    (hf : ∀ cs a rest b, G cs a rest → f a = .ok b → H cs b rest) : Reads (check f r) H := by
  intro c b d hr
  unfold Reader.check at hr
  split at hr
  · rename_i a mid hra
    split at hr
    · rename_i hfa
      cases hr
      exact ⟨(h hra).1, hf _ _ _ _ (h hra).2 hfa⟩
    · cases hr
  · cases hr
  · cases hr

/-- What is read twice from one place is read the same. -/
theorem Reads.ahead_check {f : α → α → Except String β} (h : Reads r G)
    (hf : ∀ cs a rest b, G cs a rest → f a a = .ok b → H cs b rest) :
    Reads (do let a ← Reader.ahead r; Reader.commit (Reader.check (f a) r)) H := by
  intro c b d hr
  rw [bind_apply] at hr
  unfold Reader.ahead Reader.commit Reader.check at hr
  cases hra : r c with
  | done a mid =>
    simp only [hra] at hr
    cases hfa : f a a with
    | ok b' =>
      rw [hfa] at hr
      cases hr
      exact ⟨(h hra).1, hf _ _ _ _ (h hra).2 hfa⟩
    | error cause =>
      rw [hfa] at hr
      cases hr
  | miss e =>
    rw [hra] at hr
    cases hr
  | halt e =>
    rw [hra] at hr
    cases hr

theorem Reads.satisfying {p : α → Bool} (h : Reads r G) :
    Reads (satisfying p r) fun cs a rest => G cs a rest ∧ p a := by
  intro c a d hr
  unfold Reader.satisfying at hr
  split at hr
  · rename_i hra
    split at hr
    · rename_i hp
      cases hr
      exact ⟨(h hra).1, (h hra).2, hp⟩
    · cases hr
  · rename_i hne
    exact absurd hr (hne a d)

theorem reads_rest : Reads rest fun cs a rest => a = cs ∧ rest = cs := by
  intro c a d hr
  cases hr
  exact ⟨.refl _, rfl, rfl⟩

theorem reads_offset : Reads offset fun cs _ rest => cs = rest := by
  intro c a d hr
  cases hr
  exact ⟨.refl _, rfl⟩

theorem reads_any : Reads any fun cs a rest => cs = a :: rest := by
  intro c a d hr
  unfold any at hr
  split at hr
  · cases hr
  · rename_i b rest hrest
    cases hr
    obtain ⟨hb, hnext⟩ := Cursor.before_next hrest
    exact ⟨hb, by rw [hrest, hnext]⟩

theorem reads_ahead_any : Reads (ahead any) fun cs _ rest => cs = rest ∧ cs ≠ [] := by
  intro c a d hr
  unfold ahead any at hr
  cases hrest : c.rest with
  | nil =>
    simp only [hrest] at hr
    cases hr
  | cons b rest =>
    simp only [hrest] at hr
    cases hr
    exact ⟨.refl _, hrest.symm, List.cons_ne_nil _ _⟩

theorem reads_char (p : Char → Bool) : Reads (char p) fun cs a rest => cs = a :: rest ∧ p a :=
  reads_any.satisfying

theorem reads_word (w : String) : Reads (word w) fun cs _ rest => cs = w.toList ++ rest := by
  intro c a d hr
  unfold word at hr
  split at hr
  · rename_i hskip
    cases hr
    exact Cursor.skipWord?_eq_some hskip
  · cases hr

theorem reads_takeWhile (p : Char → Bool) :
    Reads (takeWhile p) fun cs a rest => cs = a ++ rest ∧ ∀ c ∈ a, p c := by
  intro c a d hr
  cases hr
  obtain ⟨hb, hskip⟩ := Cursor.before_skipWhile p c
  refine ⟨hb, ?_, fun b hmem => List.mem_takeWhile_imp hmem⟩
  rw [hskip, List.takeWhile_append_dropWhile]

theorem reads_takeWhile₁ (p : Char → Bool) :
    Reads (takeWhile₁ p) fun cs a rest => cs = a ++ rest ∧ a ≠ [] ∧ ∀ c ∈ a, p c := by
  refine (reads_takeWhile p).satisfying.mono ?_
  rintro cs a rest ⟨⟨hcs, hp⟩, hne⟩
  refine ⟨hcs, ?_, hp⟩
  rintro rfl
  cases hne

theorem takeUpTo_spec (n : Nat) (p : Char → Bool) (c : Cursor) (found : List Char) :
    ∃ w, (takeUpTo n p c found).1 = found.reverse ++ w ∧ c.Before (takeUpTo n p c found).2 ∧
      c.rest = w ++ (takeUpTo n p c found).2.rest ∧ ∀ a ∈ w, p a := by
  have stop : ∃ w, found.reverse = found.reverse ++ w ∧ c.Before c ∧ c.rest = w ++ c.rest ∧
      ∀ a ∈ w, p a := ⟨[], (List.append_nil _).symm, .refl c, rfl, by simp⟩
  induction n generalizing c found with
  | zero => exact stop
  | succ n ih =>
    rw [takeUpTo]
    split
    · exact stop
    · rename_i a rest hrest
      split
      · rename_i ha
        obtain ⟨hbefore, hnext⟩ := Cursor.before_next hrest
        obtain ⟨w, hfound, hb, hcs, hw⟩ := ih c.next (a :: found)
          ⟨[], (List.append_nil _).symm, .refl _, rfl, by simp⟩
        refine ⟨a :: w, ?_, hbefore.trans hb, ?_, ?_⟩
        · rw [hfound, List.reverse_cons, List.append_assoc, List.singleton_append]
        · rw [hrest, List.cons_append, ← hcs, hnext]
        · rw [List.forall_mem_cons]
          exact ⟨ha, hw⟩
      · exact stop

theorem reads_exactly (n : Nat) (p : Char → Bool) :
    Reads (exactly n p) fun cs a rest => cs = a ++ rest ∧ a.length = n ∧ ∀ c ∈ a, p c := by
  intro c a d hr
  obtain ⟨w, hfound, hb, hcs, hw⟩ := takeUpTo_spec n p c []
  unfold exactly at hr
  simp only at hr
  split at hr
  · rename_i hlength
    rw [List.reverse_nil, List.nil_append] at hfound
    cases hr
    rw [hfound] at hlength ⊢
    exact ⟨hb, hcs, hlength, hw⟩
  · cases hr

theorem reads_atEnd : Reads atEnd fun cs _ rest => cs = [] ∧ rest = [] := by
  intro c a d hr
  unfold atEnd at hr
  split at hr
  · rename_i hend
    cases hr
    have hnil : c.rest = [] := List.isEmpty_iff.1 hend
    exact ⟨.refl _, hnil, hnil⟩
  · cases hr

theorem Reads.located (h : Reads r G) : Reads (located r) fun cs a rest => G cs a.1 rest := by
  refine reads_offset.bind fun start => h.bind fun a => reads_offset.bind fun stop => reads_pure ?_
  rintro cs _ rfl _ hG _ rfl
  exact hG

/-- The text that is taken is what stands between the places. -/
theorem Reads.taken (h : Reads r G) :
    Reads (taken r) fun cs w rest => cs = w ++ rest ∧ ∃ a, G cs a rest := by
  intro c w d hr
  unfold Reader.taken at hr
  split at hr
  · rename_i a d' hra
    obtain ⟨⟨v, hv, hchars⟩, hG⟩ := h hra
    cases hr
    have hw : c.rest.take (d.position.chars - c.position.chars) = v := by
      rw [hchars, Nat.add_sub_cancel_left, hv, List.take_left]
    exact ⟨⟨v, hv, hchars⟩, by rw [hw, hv], a, hG⟩
  · cases hr
  · cases hr

inductive Many (G : List Char → α → List Char → Prop) : List Char → List α → List Char → Prop
  | nil (cs) : Many G cs [] cs
  | cons {cs a mid as rest} (head : G cs a mid) (tail : Many G mid as rest) : Many G cs (a :: as) rest

theorem Many.concat {cs mid rest : List Char} {as : List α} {a : α} (h : Many G cs as mid)
    (ha : G mid a rest) : Many G cs (as ++ [a]) rest := by
  induction h with
  | nil cs => exact .cons ha (.nil _)
  | cons head _ ih => exact .cons head (ih ha)

theorem Many.mono {K : List Char → α → List Char → Prop} {cs rest : List Char} {as : List α}
    (h : Many G cs as rest) (hK : ∀ cs a rest, G cs a rest → K cs a rest) : Many K cs as rest := by
  induction h with
  | nil cs => exact .nil cs
  | cons head _ ih => exact .cons (hK _ _ _ head) ih

theorem Many.append {cs mid rest : List Char} {as bs : List α} (h : Many G cs as mid)
    (h' : Many G mid bs rest) : Many G cs (as ++ bs) rest := by
  induction h with
  | nil cs => exact h'
  | cons head _ ih => exact .cons head (ih h')

/-- Runs one after another are one run. -/
theorem Many.flatten {cs rest : List Char} {ass : List (List α)} (h : Many (Many G) cs ass rest) :
    Many G cs ass.flatten rest := by
  induction h with
  | nil cs => exact .nil cs
  | cons head _ ih => exact head.append ih

theorem Many.of_chars {K : List Char → Char → List Char → Prop} {w rest : List Char}
    (h : ∀ c ∈ w, ∀ rest, K (c :: rest) c rest) : Many K (w ++ rest) w rest := by
  induction w with
  | nil => exact .nil rest
  | cons c w ih =>
    rw [List.forall_mem_cons] at h
    exact .cons (h.1 _) (ih h.2)

theorem Reads.manyFrom (h : Reads r G) (n : Nat) (found : List α) :
    Reads (manyFrom r n found) fun mid as rest =>
      ∀ cs, Many G cs found.reverse mid → Many G cs as rest := by
  induction n generalizing found with
  | zero => exact reads_pure fun _ _ hm => hm
  | succ n ih =>
    refine (h.attempt (H := fun cs o rest => o.elim (cs = rest) fun a => G cs a rest)
      (fun _ _ _ hG => hG) fun _ => rfl).bind fun o => ?_
    cases o with
    | some a =>
      refine (ih (a :: found)).mono ?_
      intro mid as rest hmany _ ha cs hm
      apply hmany
      rw [List.reverse_cons]
      exact hm.concat ha
    | none =>
      apply reads_pure
      rintro cs _ rfl _ hm
      exact hm

theorem Reads.many (h : Reads r G) : Reads (many r) (Many G) := by
  refine reads_rest.bind fun _ => (h.manyFrom _ []).mono ?_
  rintro cs as rest hmany _ ⟨rfl, rfl⟩
  exact hmany _ (.nil _)

theorem Reads.separated₁ {separator : Reader β} (h : Reads r G) (hs : Reads separator H) :
    Reads (separated₁ r separator) fun cs as rest => ∃ a as' mid, as = a :: as' ∧ G cs a mid ∧
      Many (fun cs a rest => ∃ b mid, H cs b mid ∧ G mid a rest) mid as' rest := by
  have hnext : Reads (do let _ ← separator; r) fun cs a rest => ∃ b mid, H cs b mid ∧ G mid a rest :=
    hs.bind fun b => h.mono fun mid a rest hG cs hH => ⟨b, mid, hH, hG⟩
  refine h.bind fun a => hnext.many.bind fun as => reads_pure ?_
  intro rest mid hm cs hG
  exact ⟨a, as, mid, rfl, hG, hm⟩

theorem Reads.separated {separator : Reader β} {K : List Char → List α → List Char → Prop}
    (h : Reads r G) (hs : Reads separator H)
    (hK : ∀ cs a mid as rest, G cs a mid →
      Many (fun cs a rest => ∃ b mid, H cs b mid ∧ G mid a rest) mid as rest → K cs (a :: as) rest) :
    Reads (separated r separator) fun cs as rest => (as = [] ∧ cs = rest) ∨ K cs as rest := by
  refine ((h.separated₁ hs).attempt (H := fun cs as rest =>
    (as.getD [] = [] ∧ cs = rest) ∨ K cs (as.getD []) rest) ?_ fun cs => Or.inl ⟨rfl, rfl⟩).bind
      fun as => reads_pure fun _ _ h => h
  rintro cs as rest ⟨a, as', mid, rfl, ha, hmore⟩
  exact Or.inr (hK cs a mid as' rest ha hmore)

end TypeScriptRepl.Toml.Reader
