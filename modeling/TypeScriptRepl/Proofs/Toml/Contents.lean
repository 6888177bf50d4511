import TypeScriptRepl.Proofs.Toml.Table

/-! What tables hold, as a map from paths of names to what these lead to. -/
namespace TypeScriptRepl.Toml

/-- What a path leads to: a value, a table or an array of tables. An inline table is a value. -/
inductive Seen where
  | value (i : Item)
  | table (style : TableStyle)
  | tables (count : Nat)

def Item.seen : Item → Seen
  | .table .inline range entries => .value (.table .inline range entries)
  | .table style _ _ => .table style
  | .tables elements => .tables elements.length
  | i => .value i

/-- Where a path goes on. The last table of an array stands for the array. -/
def Item.inside : Item → List (Key × Item)
  | .table _ _ entries => entries
  | .tables elements => (elements.getLast?.map Table.entriesOf).getD []
  | _ => []

def Item.at? : List String → Item → Option Seen
  | [], i => some i.seen
  | n :: ns, i => (lookup? n i.inside).bind (Item.at? ns)

/-- How a table comes to be on the way of a path: headers imply those on the way to `above`, and dotted
keys make the others. -/
def TableStyle.onTheWay (above p : List String) : TableStyle := if p <+: above then .implied else .dotted

abbrev Contents := List String → Option Seen

def contents (entries : List (Key × Item)) : Contents
  | [] => none
  | n :: ns => (lookup? n entries).bind (Item.at? ns)

namespace Contents

def empty : Contents := fun _ => none

def behind (m : Contents) (q : List String) : Contents := fun r => m (q ++ r)

/-- Changes what is behind a path, and makes the tables on the way that are not there. -/
def edit (above q : List String) (change : Contents → Contents) (m : Contents) : Contents := fun p =>
  if q <+: p then change (m.behind q) (p.drop q.length)
  else if p <+: q ∧ p ≠ [] then (m p).or (some (.table (.onTheWay above p)))
  else m p

def withValue (v : Item) : Contents → Contents := fun _ r => v.at? r

def withHeader : Contents → Contents := fun m r => if r = [] then some (.table .header) else m r

def withElement : Contents → Contents := fun m r =>
  if r ≠ [] then none else
    match m [] with
    | some (.tables count) => some (.tables (count + 1))
    | _ => some (.tables 1)

/-- No value is on the way to the end of the path, and dotted keys lead through no table that has a header
of its own. An array of tables is passed through its last table. -/
def IsPassable (m : Contents) (above q : List String) : Prop :=
  ∀ p, p <+: q → p ≠ q →
    (∀ i, m p ≠ some (.value i)) ∧ (¬p <+: above → m p ≠ some (.table .header))

/-- The path can be passed, and a dotted key ends in a table that only dotted keys make. -/
structure IsOpen (m : Contents) (above q : List String) : Prop where
  passable : m.IsPassable above q
  ends : ¬q.dropLast <+: above → m q.dropLast = none ∨ m q.dropLast = some (.table .dotted)

end Contents

variable {entries entries' : List (Key × Item)}

theorem at?_of_ne_nil {r : List String} (hr : r ≠ []) (i : Item) : i.at? r = contents i.inside r := by
  cases r with
  | nil => exact absurd rfl hr
  | cons n ns => rfl

theorem contents_cons_of_none {n : String} (h : lookup? n entries = none) (r : List String) :
    contents entries (n :: r) = none := by
  rw [contents, h, Option.bind_none]

theorem contents_cons_of_some {n : String} {i : Item} (h : lookup? n entries = some i)
    (r : List String) : contents entries (n :: r) = i.at? r := by
  rw [contents, h, Option.bind_some]

theorem contents_nil : contents [] = .empty := by
  funext p
  cases p <;> rfl

/-! ### Entries -/

/-- The item has taken the place under the name, and the other places are as they were. -/
def IsUpdate (name : String) (i : Item) (entries entries' : List (Key × Item)) : Prop :=
  ∀ n, lookup? n entries' = if name = n then some i else lookup? n entries

theorem isUpdate_append {k : Key} (h : lookup? k.name entries = none) (i : Item) :
    IsUpdate k.name i entries (entries ++ [(k, i)]) := by
  intro n
  rw [lookup?, List.find?_append]
  by_cases hn : k.name = n
  · subst hn
    rw [lookup?, Option.map_eq_none_iff] at h
    simp [h]
  · simp [hn, lookup?]

theorem lookup?_replace (name : String) (i : Item) (entries : List (Key × Item)) (n : String) :
    lookup? n (replace name i entries) =
      if name = n then (lookup? n entries).map fun _ => i else lookup? n entries := by
  induction entries with
  | nil => simp [replace, lookup?]
  | cons e entries ih =>
    rw [replace, List.map_cons, ← replace, lookup?_cons, lookup?_cons, ih]
    by_cases he : e.1.name = name
    · subst he
      rw [if_pos rfl]
      split <;> rfl
    · rw [if_neg he]
      by_cases hn : name = n
      · rw [if_pos hn, if_pos hn, if_neg (hn ▸ he), if_neg (hn ▸ he)]
      · rw [if_neg hn, if_neg hn]

theorem isUpdate_replace {name : String} {j : Item} (h : lookup? name entries = some j) (i : Item) :
    IsUpdate name i entries (replace name i entries) := by
  intro n
  rw [lookup?_replace]
  by_cases hn : name = n
  · subst hn
    rw [if_pos rfl, if_pos rfl, h, Option.map_some]
  · rw [if_neg hn, if_neg hn]

theorem isUpdate_remove_append (k : Key) (i : Item) (entries : List (Key × Item)) :
    IsUpdate k.name i entries (remove k.name entries ++ [(k, i)]) := by
  intro n
  have hnone : lookup? k.name (remove k.name entries) = none := by
    rw [lookup?_eq_none_iff, entryNames, remove]
    simp
  rw [isUpdate_append hnone]
  by_cases hn : k.name = n
  · rw [if_pos hn, if_pos hn]
  · rw [if_neg hn, if_neg hn, lookup?, lookup?, remove, List.find?_filter]
    congr 2
    funext e
    by_cases he : e.1.name = n
    · simp [he, Ne.symm hn]
    · simp [he]

/-! ### Edits -/

/-- The entries after are those before with another content behind a path. The path could be passed, and
its end was one of those that are allowed. -/
structure IsEdit (above q : List String) (change : Contents → Contents) (Allowed : Option Seen → Prop)
    (before after : List (Key × Item)) : Prop where
  contents_eq : contents after = (contents before).edit above q change
  passable : (contents before).IsPassable above q
  allowed : Allowed (contents before q)

variable {above above' q : List String} {change : Contents → Contents} {Allowed : Option Seen → Prop}
  {name : String} {i : Item} {inner inner' : List (Key × Item)}

/-- An edit at a name: the change says what is at the new item and behind it. -/
theorem IsUpdate.isEdit (h : IsUpdate name i entries entries')
    (hi : ∀ r, i.at? r = change ((contents entries).behind [name]) r)
    (hallowed : Allowed (contents entries [name])) :
    IsEdit above [name] change Allowed entries entries' where
  contents_eq := by
    funext p
    cases p with
    | nil => simp [contents, Contents.edit]
    | cons n ns =>
      rw [contents, h, Contents.edit]
      by_cases hn : name = n
      · subst hn
        have hafter : [name] <+: name :: ns := List.prefix_append [name] ns
        rw [if_pos rfl, if_pos hafter, Option.bind_some, hi]
        rfl
      · have hafter : ¬ [name] <+: n :: ns := by simp [List.cons_prefix_cons, hn]
        have hbefore : ¬ (n :: ns <+: [name] ∧ n :: ns ≠ []) := by
          simp [List.cons_prefix_cons, Ne.symm hn]
        rw [if_neg hn, if_neg hafter, if_neg hbefore, contents]
  passable := by
    intro p hp hne
    rcases List.prefix_cons_iff.1 hp with rfl | ⟨r, rfl, hr⟩
    · simp [contents]
    · rw [List.prefix_nil.1 hr] at hne
      exact absurd rfl hne
  allowed := hallowed

structure LeadsTo (name : String) (entries inner : List (Key × Item)) : Prop where
  ne_value : ∀ i, contents entries [name] ≠ some (.value i)
  contents_eq : ∀ r, r ≠ [] → contents inner r = contents entries (name :: r)

theorem leadsTo_nil (h : lookup? name entries = none) : LeadsTo name entries [] where
  ne_value i := by simp [contents_cons_of_none h]
  contents_eq r _ := by rw [contents_nil, contents_cons_of_none h, Contents.empty]

theorem leadsTo_inside (h : lookup? name entries = some i) (hi : ∀ j, i.seen ≠ .value j) :
    LeadsTo name entries i.inside where
  ne_value j := by
    rw [contents_cons_of_some h]
    exact fun hj => hi j (Option.some.inj hj)
  contents_eq r hr := by rw [contents_cons_of_some h, at?_of_ne_nil hr]

/-- A path can be passed if its first name can be, and from there the rest of it. -/
theorem Contents.IsPassable.cons (h : (contents inner).IsPassable above q)
    (hleads : LeadsTo name entries inner)
    (habove : ∀ p, p ≠ [] → (name :: p <+: above' ↔ p <+: above))
    (hheader : ¬[name] <+: above' → contents entries [name] ≠ some (.table .header)) :
    (contents entries).IsPassable above' (name :: q) := by
  intro p hp hne
  rcases List.prefix_cons_iff.1 hp with rfl | ⟨r, rfl, hr⟩
  · simp [contents]
  · by_cases hr' : r = []
    · subst hr'
      exact ⟨hleads.ne_value, hheader⟩
    · rw [← hleads.contents_eq r hr', habove r hr']
      exact h r hr fun heq => hne (heq ▸ rfl)

/-- What is behind the name is edited, and at the name is a table that is on the way. -/
theorem IsUpdate.contents_eq_edit_cons (hupdate : IsUpdate name i entries entries') (hq : q ≠ [])
    (hinside : contents i.inside = (contents inner).edit above q change)
    (hleads : LeadsTo name entries inner)
    (habove : ∀ p, p ≠ [] → (name :: p <+: above' ↔ p <+: above))
    (hseen : some i.seen = (contents entries [name]).or (some (.table (.onTheWay above' [name])))) :
    contents entries' = (contents entries).edit above' (name :: q) change := by
  funext p
  cases p with
  | nil => simp [contents, Contents.edit]
  | cons n ns =>
    rw [contents, hupdate, Contents.edit]
    by_cases hn : name = n
    · subst hn
      rw [if_pos rfl, Option.bind_some]
      cases ns with
      | nil =>
        have hafter : ¬ name :: q <+: [name] := by simpa [List.cons_prefix_cons] using hq
        rw [if_neg hafter, if_pos ⟨List.prefix_append [name] q, List.cons_ne_nil _ _⟩]
        exact hseen
      | cons m ms =>
        have hbehind : (contents inner).behind q = (contents entries).behind (name :: q) := by
          funext r
          exact hleads.contents_eq (q ++ r) (by simp [hq])
        have hstyle : TableStyle.onTheWay above (m :: ms) = .onTheWay above' (name :: m :: ms) := by
          simp only [TableStyle.onTheWay, habove _ (List.cons_ne_nil m ms)]
        rw [at?_of_ne_nil (List.cons_ne_nil m ms), hinside, Contents.edit, hbehind,
          hleads.contents_eq _ (List.cons_ne_nil m ms), hstyle]
        simp [List.cons_prefix_cons]
    · have hafter : ¬ name :: q <+: n :: ns := by simp [List.cons_prefix_cons, hn]
      have hbefore : ¬ (n :: ns <+: name :: q ∧ n :: ns ≠ []) := by
        simp [List.cons_prefix_cons, Ne.symm hn]
      rw [if_neg hn, if_neg hafter, if_neg hbefore, contents]

/-- An edit of what a name leads to is one of the entries with the name. -/
theorem IsEdit.cons (h : IsEdit above q change Allowed inner i.inside) (hq : q ≠ [])
    (hleads : LeadsTo name entries inner) (hupdate : IsUpdate name i entries entries')
    (habove : ∀ p, p ≠ [] → (name :: p <+: above' ↔ p <+: above))
    (hheader : ¬[name] <+: above' → contents entries [name] ≠ some (.table .header))
    (hseen : some i.seen = (contents entries [name]).or (some (.table (.onTheWay above' [name])))) :
    IsEdit above' (name :: q) change Allowed entries entries' where
  contents_eq := hupdate.contents_eq_edit_cons hq h.contents_eq hleads habove hseen
  passable := h.passable.cons hleads habove hheader
  allowed := hleads.contents_eq q hq ▸ h.allowed

namespace Table

def Edit.Makes (f : Edit) (above q : List String) (change : Contents → Contents)
    (Allowed : Option Seen → Prop) : Prop :=
  ∀ ⦃style range entries i⦄, f style range entries = .ok i → ∃ range' entries',
    i = .table style range' entries' ∧ IsEdit above q change Allowed entries entries'

theorem seen_of_ne_inline {style : TableStyle} (h : style ≠ .inline) (range : Option Range)
    (entries : List (Key × Item)) : Item.seen (.table style range entries) = .table style := by
  cases style <;> first | rfl | exact absurd rfl h

theorem style_of_seen {style style' : TableStyle} {range : Option Range}
    (h : Item.seen (.table style range entries) = .table style') : style = style' := by
  cases style with
  | inline => cases h
  | header | implied | dotted => exact Seen.table.inj h

theorem leadsTo_last {k : Key} {elements : List Item} {style : TableStyle} {range : Option Range}
    (hsome : lookup? k.name entries = some (.tables elements))
    (hlast : elements.getLast? = some (.table style range inner)) : LeadsTo k.name entries inner := by
  have h := leadsTo_inside hsome fun j => by simp [Item.seen]
  rwa [Item.inside, hlast] at h

/-- By induction on the path: what a step does with the table under the next name, or with the last
one of an array, is an edit of the entries with this name. -/
theorem Edit.Makes.descend {f : Edit} (hf : f.Makes above q change Allowed) (hq : q ≠ [])
    (dotted : Bool) (habove : dotted = true → above = []) (ks : List Key) (before : List String) :
    (descend dotted f ks before).Makes (if dotted then [] else names ks ++ above) (names ks ++ q)
      change Allowed := by
  induction ks generalizing before with
  | nil =>
    cases dotted with
    | true => exact habove rfl ▸ hf
    | false => exact hf
  | cons k ks ih =>
    have hrest : names ks ++ q ≠ [] := by simp [hq]
    have hbelow : ∀ p, p ≠ [] → (k.name :: p <+: (if dotted then [] else names (k :: ks) ++ above) ↔
        p <+: if dotted then [] else names ks ++ above) := by
      intro p hp
      cases dotted <;> simp [names, hp]
    have hstyle : TableStyle.onTheWay (if dotted then [] else names (k :: ks) ++ above) [k.name] =
        if dotted then .dotted else .implied := by
      cases dotted <;> simp [TableStyle.onTheWay, names]
    have hdotted : ¬[k.name] <+: (if dotted then [] else names (k :: ks) ++ above) →
        dotted = true := by
      cases dotted <;> simp [names]
    intro style range entries j h
    obtain ⟨entries', rfl, hstep⟩ := descends_of_descend h
    refine ⟨range, entries', rfl, ?_⟩
    cases hstep with
    | made hnone hmade =>
      obtain ⟨range', inner', rfl, hedit⟩ := ih _ hmade
      have hnothing := contents_cons_of_none hnone []
      refine hedit.cons hrest (leadsTo_nil hnone) (isUpdate_append hnone _) hbelow ?_ ?_
      · simp [hnothing]
      · rw [hnothing, hstyle]
        cases dotted <;> rfl
    | @last elements last _ hsome hlast hlast' =>
      cases last with
      | table lastStyle lastRange lastEntries =>
        obtain ⟨range', inner', rfl, hedit⟩ := ih _ hlast'
        have hinside : (Item.tables (elements.dropLast ++
            [.table lastStyle range' inner'])).inside = inner' := by
          simp [Item.inside, entriesOf]
        have harray := contents_cons_of_some hsome []
        refine (hinside ▸ hedit).cons hrest (leadsTo_last hsome hlast) (isUpdate_replace hsome _)
          hbelow ?_ ?_
        · simp [harray, Item.at?, Item.seen]
        · have hne : elements ≠ [] := by
            rintro rfl
            cases hlast
          have hlength : (elements.dropLast ++ [Item.table lastStyle range' inner']).length =
              elements.length := by
            have := List.length_pos_iff.2 hne
            rw [List.length_append, List.length_dropLast, List.length_singleton]
            omega
          rw [harray, Item.seen, hlength]
          rfl
      | _ => cases hlast'
    | @table innerStyle _ _ _ hsome hinline hheader hi =>
      obtain ⟨range', inner', rfl, hedit⟩ := ih _ hi
      have htable := contents_cons_of_some hsome []
      rw [Item.at?, seen_of_ne_inline hinline] at htable
      refine hedit.cons hrest (leadsTo_inside hsome fun j => by simp [seen_of_ne_inline hinline])
        (isUpdate_replace hsome _) hbelow ?_ ?_
      · rw [htable]
        intro hnot heq
        exact hheader (hdotted hnot) (Seen.table.inj (Option.some.inj heq))
      · rw [htable, seen_of_ne_inline hinline]
        rfl

theorem Descends.exists_inner {dotted : Bool} {f : Edit} {k : Key}
    (h : Descends dotted f k entries entries') (hproper : AreProper entries) :
    ∃ style range inner i, f style range inner = .ok i ∧ AreProper inner ∧
      LeadsTo k.name entries inner ∧
      (style = .dotted → contents entries [k.name] = none ∨
        contents entries [k.name] = some (.table .dotted)) := by
  cases h with
  | made hnone h =>
    exact ⟨_, _, [], _, h, areProper_nil, leadsTo_nil hnone,
      fun _ => Or.inl (contents_cons_of_none hnone [])⟩
  | last hsome hlast h =>
    have helements := hproper.isProper_of_lookup? hsome
    cases helements with
    | tables hheaders helements =>
      have hmem := List.mem_of_getLast? hlast
      obtain ⟨range, inner, rfl⟩ := hheaders _ hmem
      exact ⟨_, _, _, _, h, areProper_entriesOf (helements _ hmem), leadsTo_last hsome hlast, nofun⟩
  | table hsome hinline _ h =>
    have hinner := areProper_entriesOf (hproper.isProper_of_lookup? hsome)
    have hleads := leadsTo_inside hsome fun j => by simp [seen_of_ne_inline hinline]
    refine ⟨_, _, _, _, h, hinner, hleads, ?_⟩
    rintro rfl
    exact Or.inr (contents_cons_of_some hsome [])

/-- By induction on the path: an edit is made of what is behind it. If it is one of a table that dotted
keys made, then this table is at the end of the path, unless nothing was there. -/
theorem exists_inner_of_descend {dotted : Bool} {f : Edit} {ks : List Key} {before : List String}
    {style : TableStyle} {range : Option Range} {j : Item} (hproper : AreProper entries)
    (h : descend dotted f ks before style range entries = .ok j) :
    ∃ style' range' inner i, f style' range' inner = .ok i ∧ AreProper inner ∧
      (∀ r, r ≠ [] → contents inner r = contents entries (names ks ++ r)) ∧
      (style' = .dotted → (Item.table style range entries).at? (names ks) = none ∨
        (Item.table style range entries).at? (names ks) = some (.table .dotted)) := by
  induction ks generalizing before style range entries j with
  | nil =>
    refine ⟨style, range, entries, j, h, hproper, fun _ _ => rfl, ?_⟩
    rintro rfl
    exact Or.inr rfl
  | cons k ks ih =>
    obtain ⟨entries', -, hstep⟩ := descends_of_descend h
    obtain ⟨_, _, next, _, hnext, hnextProper, hleads, hhere⟩ := hstep.exists_inner hproper
    obtain ⟨style', range', inner, i, hi, hinner, hbehind, hends⟩ := ih hnextProper hnext
    refine ⟨style', range', inner, i, hi, hinner, ?_, ?_⟩
    · intro r hr
      rw [hbehind r hr, hleads.contents_eq _ (by simp [hr])]
      rfl
    · intro hstyle
      have hat : (Item.table style range entries).at? (names (k :: ks)) =
          contents entries (k.name :: names ks) := at?_of_ne_nil (List.cons_ne_nil _ _) _
      rw [hat]
      have hend := hends hstyle
      by_cases hks : names ks = []
      · rw [hks] at hend ⊢
        rcases hend with hend | hend
        · cases hend
        · exact hhere (style_of_seen (Option.some.inj hend))
      · rw [at?_of_ne_nil hks] at hend
        rw [← hleads.contents_eq _ hks]
        exact hend

theorem makes_put (dotted : Bool) (k : Key) (v : Item) (known : Option (List String)) :
    (put dotted k v known).Makes [] [k.name] (.withValue v) (· = none) := by
  intro style range entries i h
  obtain ⟨-, hnone, rfl⟩ := put_eq_ok h
  exact ⟨range, _, rfl, (isUpdate_append hnone v).isEdit (fun _ => rfl)
    (contents_cons_of_none hnone [])⟩

theorem names_ne_nil {ks : List Key} (hks : ks ≠ []) : names ks ≠ [] := by
  rw [names, ne_eq, List.map_eq_nil_iff]
  exact hks

theorem dropLast_names (ks : List Key) : (names ks).dropLast = names ks.dropLast := List.map_dropLast.symm

theorem names_eq_append {ks : List Key} (hks : ks ≠ []) :
    names ks = names ks.dropLast ++ [(ks.getLast hks).name] := by
  rw [names, names, ← List.map_singleton, ← List.map_append, List.dropLast_append_getLast]

theorem makes_insert {ks : List Key} (hks : ks ≠ []) (v : Item) (known : Option (List String)) :
    (insert ks v known).Makes [] (names ks) (.withValue v) (· = none) := by
  rw [insert, List.getLast?_eq_some_getLast hks, names_eq_append hks]
  exact (makes_put _ _ v known).descend (List.cons_ne_nil _ _) true (fun _ => rfl) _ _

/-- A dotted key puts its value in a table that only dotted keys make. -/
theorem ends_of_insert {ks : List Key} {v : Item} {known : Option (List String)} {style : TableStyle}
    {range : Option Range} (hks : ks.dropLast ≠ []) (hproper : AreProper entries)
    (h : insert ks v known style range entries = .ok i) :
    contents entries (names ks.dropLast) = none ∨
      contents entries (names ks.dropLast) = some (.table .dotted) := by
  have hne : ks ≠ [] := by
    rintro rfl
    exact hks rfl
  have hlength : 1 < ks.length := by
    have := List.length_pos_iff.2 hks
    rw [List.length_dropLast] at this
    omega
  rw [insert, List.getLast?_eq_some_getLast hne] at h
  obtain ⟨style', range', inner, i, hput, -, -, hends⟩ := exists_inner_of_descend hproper h
  have hat := hends ((put_eq_ok hput).1 (decide_eq_true hlength))
  rwa [at?_of_ne_nil (names_ne_nil hks)] at hat

theorem isOpen_of_insert {ks : List Key} {v : Item} {known : Option (List String)} {style : TableStyle}
    {range : Option Range} (hks : ks ≠ []) (hproper : AreProper entries)
    (h : insert ks v known style range entries = .ok i) : (contents entries).IsOpen [] (names ks) where
  passable := by
    obtain ⟨_, _, -, hedit⟩ := makes_insert hks v known h
    exact hedit.passable
  ends := by
    rw [dropLast_names, List.prefix_nil, names, List.map_eq_nil_iff]
    exact fun hne => ends_of_insert hne hproper h

end Table

namespace Draft

theorem makes_openLast (range : Range) (k : Key) (before : List String) :
    Table.Edit.Makes (openLast range k before) [k.name] [k.name] .withHeader
      fun seen => seen = none ∨ seen = some (.table .implied) := by
  intro style whole entries i h
  rcases openLast_eq_ok h with ⟨hnone, rfl⟩ | ⟨_, _, hsome, rfl⟩
  · have hhere := contents_cons_of_none hnone []
    refine ⟨whole, _, rfl, (isUpdate_append hnone _).isEdit (fun r => ?_) (Or.inl hhere)⟩
    cases r with
    | nil => rfl
    | cons n ns => exact (contents_cons_of_none hnone (n :: ns)).symm
  · have hhere := contents_cons_of_some hsome []
    refine ⟨whole, _, rfl, (isUpdate_remove_append k _ entries).isEdit (fun r => ?_) (Or.inr hhere)⟩
    cases r with
    | nil => rfl
    | cons n ns => exact (contents_cons_of_some hsome (n :: ns)).symm

theorem makes_openElement (range : Range) (k : Key) (before : List String) :
    Table.Edit.Makes (openElement range k before) [k.name] [k.name] .withElement
      fun seen => seen = none ∨ ∃ count, seen = some (.tables count) := by
  intro style whole entries i h
  rcases openElement_eq_ok h with ⟨hnone, rfl⟩ | ⟨elements, hsome, rfl⟩
  · have hhere := contents_cons_of_none hnone []
    refine ⟨whole, _, rfl, (isUpdate_append hnone _).isEdit (fun r => ?_) (Or.inl hhere)⟩
    cases r with
    | nil => simp [Contents.withElement, Contents.behind, hhere, Item.at?, Item.seen]
    | cons n ns => rfl
  · have hhere := contents_cons_of_some hsome []
    refine ⟨whole, _, rfl, (isUpdate_replace hsome _).isEdit (fun r => ?_) (Or.inr ⟨_, hhere⟩)⟩
    cases r with
    | nil => simp [Contents.withElement, Contents.behind, hhere, Item.at?, Item.seen]
    | cons n ns =>
      have hinside : (Item.tables (elements ++ [.table .header (some range) []])).inside = [] := by
        simp [Item.inside, Table.entriesOf]
      rw [Item.at?, hinside]
      rfl

variable {d d' : Draft}

theorem isEdit_editAt {f : Table.Edit} (hf : f.Makes above q change Allowed) (hq : q ≠ [])
    {path : List Key} (h : editAt path f d = .ok d') :
    IsEdit (Table.names path ++ above) (Table.names path ++ q) change Allowed d.entries d'.entries ∧
      d'.path = d.path := by
  obtain ⟨i, hi, hd'⟩ := Except.bind_eq_ok_iff.1 h
  obtain ⟨range, entries, rfl, hedit⟩ := hf.descend hq false nofun path [] hi
  cases hd'
  exact ⟨hedit, rfl⟩

theorem isEdit_insert {ks : List Key} (hks : ks ≠ []) {v : Item} (h : insert ks v d = .ok d') :
    IsEdit (Table.names d.path) (Table.names d.path ++ Table.names ks) (.withValue v) (· = none)
      d.entries d'.entries ∧ d'.path = d.path := by
  have hedit : IsEdit (Table.names d.path ++ []) (Table.names d.path ++ Table.names ks) (.withValue v)
      (· = none) d.entries d'.entries ∧ d'.path = d.path := by
    refine isEdit_editAt ?_ (Table.names_ne_nil hks) h
    intro style range entries i hi
    exact Table.makes_insert hks v _ hi
  rwa [List.append_nil] at hedit

theorem isOpen_insert {ks : List Key} (hks : ks ≠ []) (hproper : AreProper d.entries) {v : Item}
    (h : insert ks v d = .ok d') :
    (contents d.entries).IsOpen (Table.names d.path) (Table.names d.path ++ Table.names ks) where
  passable := (isEdit_insert hks h).1.passable
  ends := by
    obtain ⟨_, hi, -⟩ := Except.bind_eq_ok_iff.1 h
    obtain ⟨_, _, inner, _, hinsert, hinner, hbehind, -⟩ := Table.exists_inner_of_descend hproper hi
    rw [List.dropLast_append_of_ne_nil (Table.names_ne_nil hks), Table.dropLast_names]
    intro hnot
    have hdrop : ks.dropLast ≠ [] := by
      intro heq
      have hnil : Table.names ks.dropLast = [] := congrArg Table.names heq
      rw [hnil, List.append_nil] at hnot
      exact hnot (List.prefix_refl _)
    have hend := Table.ends_of_insert hdrop hinner hinsert
    rwa [hbehind _ (Table.names_ne_nil hdrop)] at hend

theorem isEdit_openTable {f : Table.Edit} {path : List Key} (hpath : path ≠ [])
    (hf : f.Makes [(path.getLast hpath).name] [(path.getLast hpath).name] change Allowed)
    (h : (do return { ← editAt path.dropLast f d with path }) = .ok d') :
    IsEdit (Table.names path) (Table.names path) change Allowed d.entries d'.entries ∧
      d'.path = path := by
  obtain ⟨e, he, hd'⟩ := Except.bind_eq_ok_iff.1 h
  cases hd'
  rw [Table.names_eq_append hpath]
  exact ⟨(isEdit_editAt hf (List.cons_ne_nil _ _) he).1, rfl⟩

theorem isEdit_openTable_false {path : List Key} (hpath : path ≠ []) {range : Range}
    (h : openTable false path range d = .ok d') :
    IsEdit (Table.names path) (Table.names path) .withHeader
      (fun seen => seen = none ∨ seen = some (.table .implied)) d.entries d'.entries ∧
        d'.path = path := by
  rw [openTable, List.getLast?_eq_some_getLast hpath] at h
  exact isEdit_openTable hpath (makes_openLast range _ _) h

theorem isEdit_openTable_true {path : List Key} (hpath : path ≠ []) {range : Range}
    (h : openTable true path range d = .ok d') :
    IsEdit (Table.names path) (Table.names path) .withElement
      (fun seen => seen = none ∨ ∃ count, seen = some (.tables count)) d.entries d'.entries ∧
        d'.path = path := by
  rw [openTable, List.getLast?_eq_some_getLast hpath] at h
  exact isEdit_openTable hpath (makes_openElement range _ _) h

end Draft

end TypeScriptRepl.Toml
