import Mathlib.Data.List.Forall2
import Mathlib.Data.List.Nodup
import TypeScriptRepl.Json.Basic

/-! Values that are read as the same records, whatever the order of their keys and whatever else they hold.
-/
namespace TypeScriptRepl.Json

def known (keys : List String) (fs : List (String × Json)) : List (String × Json) :=
  fs.filter (·.1 ∈ keys)

/-- A field gives a value, or there is no field of the key and there is a default for it. -/
def Gives (defaults fs : List (String × Json)) (key : String) (x : Json) : Prop :=
  (key, x) ∈ fs ∨ (∀ f ∈ fs, f.1 ≠ key) ∧ (key, x) ∈ defaults

/-- Fields give the same values for some keys, up to a relation for each key. No key occurs twice. -/
structure SameFields (keys : List String) (defaults : List (String × Json))
    (R : String → Json → Json → Prop) (fs gs : List (String × Json)) : Prop where
  once : ((known keys fs).map (·.1)).Nodup
  once' : ((known keys gs).map (·.1)).Nodup
  forth : ∀ key ∈ keys, ∀ x, Gives defaults fs key x → ∃ y, Gives defaults gs key y ∧ R key x y
  back : ∀ key ∈ keys, ∀ y, Gives defaults gs key y → ∃ x, Gives defaults fs key x ∧ R key x y

/-- Values are records with the same fields, or no records at all. -/
inductive SameRecord (keys : List String) (defaults : List (String × Json))
    (R : String → Json → Json → Prop) (j j' : Json) : Prop
  | none (hj : j.record? keys = none) (hj' : j'.record? keys = none) :
      SameRecord keys defaults R j j'
  | some (fs gs : List (String × Json)) (hj : j.record? keys = some (.object fs))
      (hj' : j'.record? keys = some (.object gs)) (same : SameFields keys defaults R fs gs) :
      SameRecord keys defaults R j j'

inductive SameList (R : Json → Json → Prop) : Json → Json → Prop
  | same (j : Json) : SameList R j j
  | array {xs ys : List Json} (h : List.Forall₂ R xs ys) : SameList R (.array xs) (.array ys)

section

variable {keys : List String} {defaults : List (String × Json)} {R : String → Json → Json → Prop}
  {fs gs : List (String × Json)} {key : String}

def given? (defaults : List (String × Json)) (key : String) (fs : List (String × Json)) : Option Json :=
  ((object fs).get? key).or ((object defaults).get? key)

theorem get?_eq_some_iff (once : ((known keys fs).map (·.1)).Nodup) (hk : key ∈ keys) {x : Json} :
    (object fs).get? key = some x ↔ (key, x) ∈ fs := by
  have hmem {f : String × Json} (hf : f ∈ fs) (he : f.1 = key) : f ∈ known keys fs :=
    List.mem_filter.2 ⟨hf, by simp [he, hk]⟩
  rw [get?, Option.map_eq_some_iff]
  constructor
  · rintro ⟨⟨key', y⟩, hf, rfl⟩
    obtain rfl : key' = key := by simpa using List.find?_some hf
    exact List.mem_reverse.1 (List.mem_of_find?_eq_some hf)
  · intro hx
    have hsome : (fs.reverse.find? (·.1 = key)).isSome = true := by
      rw [List.find?_isSome]
      exact ⟨_, List.mem_reverse.2 hx, by simp⟩
    obtain ⟨f, hf⟩ := Option.isSome_iff_exists.1 hsome
    have hkey : f.1 = key := by simpa using List.find?_some hf
    have hfs := List.mem_reverse.1 (List.mem_of_find?_eq_some hf)
    have hsame := List.inj_on_of_nodup_map once (hmem hfs hkey) (hmem hx rfl) hkey
    exact ⟨f, hf, by rw [hsame]⟩

theorem get?_eq_none_iff : (object fs).get? key = none ↔ ∀ f ∈ fs, f.1 ≠ key := by
  simp [get?]

theorem given?_eq_some_iff (once : ((known keys fs).map (·.1)).Nodup)
    (defaultsOnce : ((known keys defaults).map (·.1)).Nodup) (hk : key ∈ keys) {x : Json} :
    given? defaults key fs = some x ↔ Gives defaults fs key x := by
  rw [given?, Option.or_eq_some_iff, get?_eq_some_iff once hk, get?_eq_none_iff,
    get?_eq_some_iff defaultsOnce hk]
  rfl

namespace SameFields

/-- Fields that give something for each key are the same if what they give is related. -/
theorem of_gives (defaultsOnce : ((known keys defaults).map (·.1)).Nodup)
    (once : ((known keys fs).map (·.1)).Nodup) (once' : ((known keys gs).map (·.1)).Nodup)
    (h : ∀ key ∈ keys, ∃ x y, Gives defaults fs key x ∧ Gives defaults gs key y ∧ R key x y) :
    SameFields keys defaults R fs gs := by
  have unique {hs : List (String × Json)} (once : ((known keys hs).map (·.1)).Nodup) {key : String}
      (hk : key ∈ keys) {x y : Json} (hx : Gives defaults hs key x) (hy : Gives defaults hs key y) :
      x = y := by
    rw [← given?_eq_some_iff once defaultsOnce hk] at hx hy
    exact Option.some.inj (hx.symm.trans hy)
  refine ⟨once, once', fun key hk x hx => ?_, fun key hk y hy => ?_⟩
  · obtain ⟨x', y, hx', hy, hxy⟩ := h key hk
    obtain rfl := unique once hk hx hx'
    exact ⟨y, hy, hxy⟩
  · obtain ⟨x, y', hx, hy', hxy⟩ := h key hk
    obtain rfl := unique once' hk hy hy'
    exact ⟨x, hx, hxy⟩

theorem rel_given? (h : SameFields keys defaults R fs gs)
    (defaultsOnce : ((known keys defaults).map (·.1)).Nodup) (hk : key ∈ keys) :
    Option.Rel (R key) (given? defaults key fs) (given? defaults key gs) := by
  have hfs {x : Json} := given?_eq_some_iff h.once defaultsOnce hk (x := x)
  have hgs {x : Json} := given?_eq_some_iff h.once' defaultsOnce hk (x := x)
  cases hx : given? defaults key fs with
  | some x =>
    obtain ⟨y, hy, hxy⟩ := h.forth key hk x (hfs.1 hx)
    rw [hgs.2 hy]
    exact .some hxy
  | none =>
    cases hy : given? defaults key gs with
    | none => exact .none
    | some y =>
      obtain ⟨x, hx', -⟩ := h.back key hk y (hgs.1 hy)
      rw [hfs.2 hx'] at hx
      cases hx

variable {α : Type} {read : Json → Option α}

theorem bind_given?_eq (h : SameFields keys defaults R fs gs)
    (defaultsOnce : ((known keys defaults).map (·.1)).Nodup) (hk : key ∈ keys)
    (hr : ∀ x y, R key x y → read x = read y) :
    (given? defaults key fs).bind read = (given? defaults key gs).bind read := by
  have hrel := h.rel_given? defaultsOnce hk
  generalize given? defaults key fs = p, given? defaults key gs = q at hrel ⊢
  cases hrel with
  | none => rfl
  | some hxy => exact hr _ _ hxy

theorem field?_eq (h : SameFields keys defaults R fs gs) (read : Json → Option α) (key : String)
    (defaultsOnce : ((known keys defaults).map (·.1)).Nodup) (hk : key ∈ keys)
    (hd : ∀ f ∈ defaults, f.1 ≠ key) (hr : ∀ x y, R key x y → read x = read y) :
    (object fs).field? read key = (object gs).field? read key := by
  have hg := h.bind_given?_eq defaultsOnce hk hr
  rwa [given?, given?, get?_eq_none_iff.2 hd, Option.or_none, Option.or_none] at hg

theorem fieldOr?_eq (h : SameFields keys defaults R fs gs) (read : Json → Option α) (key : String)
    (defaultsOnce : ((known keys defaults).map (·.1)).Nodup) (hk : key ∈ keys) {x : Json} {a : α}
    (hx : (key, x) ∈ defaults) (ha : read x = some a) (hr : ∀ x y, R key x y → read x = read y) :
    (object fs).fieldOr? read a key = (object gs).fieldOr? read a key := by
  have hfield (hs : List (String × Json)) :
      (object hs).fieldOr? read a key = (given? defaults key hs).bind read := by
    rw [fieldOr?, given?, (get?_eq_some_iff defaultsOnce hk).2 hx]
    cases (object hs).get? key with
    | none => exact ha.symm
    | some y => rfl
  rw [hfield, hfield, h.bind_given?_eq defaultsOnce hk hr]

end SameFields

/-- A reader of a record that gives the same for the same fields gives the same for the same records. -/
theorem SameRecord.bind_record?_eq {α : Type} {read : Json → Option α} {j j' : Json}
    (h : SameRecord keys defaults R j j')
    (hr : ∀ fs gs, SameFields keys defaults R fs gs → read (.object fs) = read (.object gs)) :
    (j.record? keys).bind read = (j'.record? keys).bind read := by
  cases h with
  | none hj hj' => rw [hj, hj']
  | some fs gs hj hj' same => rw [hj, hj', Option.bind_some, Option.bind_some, hr fs gs same]

end

theorem field?_of_mem {α : Type} {read : Json → Option α} {fs : List (String × Json)} {key : String}
    {x : Json} {a : α} (once : (fs.map (·.1)).Nodup) (hx : (key, x) ∈ fs) (ha : read x = some a) :
    (object fs).field? read key = some a := by
  have hall : known (fs.map (·.1)) fs = fs :=
    List.filter_eq_self.2 fun f hf => by simpa using ⟨f.2, hf⟩
  have honce : ((known (fs.map (·.1)) fs).map (·.1)).Nodup := by rwa [hall]
  rw [field?, (get?_eq_some_iff honce (List.mem_map_of_mem hx)).2 hx, Option.bind_some, ha]

theorem bind_of_eq_some {α β : Type} {o : Option α} {a : α} (h : o = some a) (f : α → Option β) :
    (o >>= f) = f a := by
  rw [h]
  rfl

theorem list?_eq {α : Type} {read : Json → Option α} {R : Json → Json → Prop} {j j' : Json}
    (h : SameList R j j') (hr : ∀ x y, R x y → read x = read y) : list? read j = list? read j' := by
  cases h with
  | same => rfl
  | array h =>
    rw [list?, list?, array?, array?, Option.bind_some, Option.bind_some]
    induction h with
    | nil => rfl
    | cons hxy _ ih => rw [List.mapM_cons, List.mapM_cons, hr _ _ hxy, ih]

theorem list?_map {α : Type} {read : Json → Option α} {f : α → Json} {xs : List α}
    (h : ∀ x ∈ xs, read (f x) = some x) : list? read (.array (xs.map f)) = some xs := by
  rw [list?, array?, Option.bind_some]
  induction xs with
  | nil => rfl
  | cons x xs ih =>
    rw [List.map_cons, List.mapM_cons, h x List.mem_cons_self,
      ih fun y hy => h y (List.mem_cons_of_mem x hy)]
    rfl

end TypeScriptRepl.Json
