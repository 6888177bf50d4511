import TypeScriptRepl.Proofs.Toml.Number
import TypeScriptRepl.Proofs.Toml.Table

/-! A text that is read as a document is lines of TOML 1.0, and its entries are what these lines make. -/
namespace TypeScriptRepl.Toml
open Reader

/-! ### Keys -/

theorem Spec.Blanks.trans {cs mid rest : List Char} (h : Spec.Blanks cs mid)
    (h' : Spec.Blanks mid rest) : Spec.Blanks cs rest := by
  obtain ⟨v, rfl, hv⟩ := h
  obtain ⟨w, rfl, hw⟩ := h'
  refine ⟨v ++ w, (List.append_assoc ..).symm, ?_⟩
  intro c hc
  rcases List.mem_append.1 hc with hc | hc
  · exact hv c hc
  · exact hw c hc

theorem isBare_iff {c : Char} : isBare c ↔ Spec.IsBare c := by
  simp only [isBare, Spec.IsBare, Bool.or_eq_true, Bool.and_eq_true, decide_eq_true_eq, isDigit_iff]
  tauto

/-- A key is told by its first character. -/
theorem reads_keyName (start : List Char) : Reads (match start.head? with
    | some '"' | some '\'' => quoted
    | _ => do return String.ofList (← takeWhile₁ isBare)) Spec.SimpleKey := by
  have hbare : Reads (do return String.ofList (← takeWhile₁ isBare)) Spec.SimpleKey := by
    refine (reads_takeWhile₁ isBare).bind fun w => reads_pure ?_
    rintro rest _ ⟨rfl, hne, hw⟩
    exact .bare hne fun c hc => isBare_iff.1 (hw c hc)
  split
  · exact reads_quoted
  · exact reads_quoted
  · exact hbare

theorem reads_simpleKey : Reads simpleKey fun cs k rest =>
    ∃ a b, Spec.Blanks cs a ∧ Spec.SimpleKey a k.name b ∧ Spec.Blanks b rest := by
  have hname : Reads (do
      match (← Reader.rest).head? with
      | some '"' | some '\'' => quoted
      | _ => return String.ofList (← takeWhile₁ isBare)) Spec.SimpleKey := by
    refine reads_rest.bind fun start => ?_
    exact (reads_keyName start).mono fun _ _ _ h _ hcs => hcs.2 ▸ h
  refine reads_blanks.bind fun _ => hname.located.bind fun k => reads_blanks.bind fun _ => reads_pure ?_
  intro rest b hb a hk cs ha
  exact ⟨a, b, ha, hk, hb⟩

theorem reads_key : Reads key fun cs ks rest =>
    ∃ a b, Spec.Blanks cs a ∧ Spec.Path a (Table.names ks) b ∧ Spec.Blanks b rest := by
  have hmore {mid rest : List Char} {ks : List Key} (h : Many (fun cs k rest => ∃ (_ : Unit) (dot : List Char),
      cs = ".".toList ++ dot ∧ ∃ a b, Spec.Blanks dot a ∧ Spec.SimpleKey a k.name b ∧
        Spec.Blanks b rest) mid ks rest) {b : List Char} (hb : Spec.Blanks b mid) :
      ∃ e, Many (fun cs name rest => ∃ a b, Spec.Blanks cs ('.' :: a) ∧ Spec.Blanks a b ∧
        Spec.SimpleKey b name rest) b (Table.names ks) e ∧ Spec.Blanks e rest := by
    induction h generalizing b with
    | nil cs => exact ⟨b, .nil b, hb⟩
    | cons head _ ih =>
      obtain ⟨-, dot, rfl, x, y, hx, hkey, hy⟩ := head
      obtain ⟨e, hmany, he⟩ := ih hy
      exact ⟨e, .cons ⟨dot, x, hb, hx, hkey⟩ hmany, he⟩
  refine ((reads_simpleKey.separated₁ (reads_word ".")).labelled _).check ?_
  rintro cs ks rest b ⟨k, more, mid, rfl, ⟨x, y, hx, hkey, hy⟩, hmany⟩ hb
  split at hb
  · cases hb
  · cases hb
    obtain ⟨e, hpath, he⟩ := hmore hmany hy
    exact ⟨x, e, hx, ⟨k.name, Table.names more, y, rfl, hkey, hpath⟩, he⟩

/-! ### Values -/

theorem reads_equals : Reads equals fun cs _ rest => cs = '=' :: rest :=
  (reads_word "=").expecting _

theorem Reader.Reads.at_ {α : Type} {r : Reader α} {f : α → Range → Item}
    {G : List Char → α → List Char → Prop} {H : List Char → Item → List Char → Prop} (h : Reads r G)
    (hf : ∀ cs a range rest, G cs a rest → H cs (f a range) rest) : Reads (at_ r f) H :=
  h.located.bind fun a => reads_pure fun _ cs hG => hf cs a.1 a.2 _ hG

theorem reads_tooDeep {G : List Char → Item → List Char → Prop} : Reads tooDeep G := by
  refine (reads_ahead_any.check ?_).commit
  intro cs a rest b _ hb
  cases hb

theorem Spec.Value.members {cs mid e rest : List Char} {i : Item} {items : List Item}
    (h : ∃ a b, Spec.Gap cs a ∧ Spec.Value a i b ∧ Spec.Gap b mid)
    (hmore : Many (fun cs i rest => ∃ (_ : Unit) (comma : List Char), cs = ",".toList ++ comma ∧
      ∃ a b, Spec.Gap comma a ∧ Spec.Value a i b ∧ Spec.Gap b rest) mid items e)
    (hend : Spec.Gap e rest ∨ ∃ comma, e = ',' :: comma ∧ Spec.Gap comma rest) :
    Spec.Members cs (i :: items) rest := by
  induction hmore generalizing cs i with
  | nil mid =>
    obtain ⟨a, b, ha, hi, hb⟩ := h
    rcases hend with hend | ⟨comma, rfl, hend⟩
    · exact .last ha hi (hb.trans hend)
    · exact .cons ha hi hb (.nil hend)
  | cons head _ ih =>
    obtain ⟨a, b, ha, hi, hb⟩ := h
    obtain ⟨-, comma, rfl, hnext⟩ := head
    exact .cons ha hi hb (ih hnext hend)

theorem reads_members {r : Reader Item} (h : Reads r Spec.Value) (start : List Char) : Reads (do
    match start.head? with
    | some ']' => return []
    | _ =>
      let items ← separated (do gap; let v ← r; gap; return v) (word ",")
      if !items.isEmpty then let _ ← attempt (word ",")
      gap
      return items) Spec.Members := by
  have hmember : Reads (do gap; let v ← r; gap; return v) fun cs i rest =>
      ∃ a b, Spec.Gap cs a ∧ Spec.Value a i b ∧ Spec.Gap b rest := by
    refine reads_gap.bind fun _ => h.bind fun i => reads_gap.bind fun _ => reads_pure ?_
    intro rest b hb a hi cs ha
    exact ⟨a, b, ha, hi, hb⟩
  have hcomma : Reads (attempt (word ",")) fun cs _ rest => cs = rest ∨ cs = ',' :: rest :=
    (reads_word ",").attempt (fun _ _ _ hw => Or.inr hw) fun _ => Or.inl rfl
  -- no member, or members with commas between them
  have hmembers : Reads (separated (do gap; let v ← r; gap; return v) (word ",")) fun cs items mid =>
      (items = [] ∧ cs = mid) ∨ ∀ rest,
        Spec.Gap mid rest ∨ (∃ comma, mid = ',' :: comma ∧ Spec.Gap comma rest) →
          Spec.Members cs items rest :=
    hmember.separated (reads_word ",") fun _ _ _ _ _ hi hmore _ hend => Spec.Value.members hi hmore hend
  split
  · exact reads_pure fun cs => .nil (.done cs)
  · refine hmembers.bind fun items => ?_
    cases items with
    | nil =>
      refine reads_gap.bind fun _ => reads_pure ?_
      rintro rest mid hgap cs (⟨-, rfl⟩ | h)
      · exact .nil hgap
      · exact h rest (Or.inl hgap)
    | cons i items =>
      rw [List.isEmpty_cons, Bool.not_false, if_pos rfl]
      refine hcomma.bind fun _ => reads_gap.bind fun _ => reads_pure ?_
      rintro rest b hgap mid hmid cs (⟨h, -⟩ | h)
      · cases h
      · rcases hmid with rfl | rfl
        · exact h rest (Or.inl hgap)
        · exact h rest (Or.inr ⟨b, rfl, hgap⟩)

theorem reads_array {r : Reader Item} (h : Reads r Spec.Value) : Reads (array r) fun cs items rest =>
    ∃ mid, cs = '[' :: mid ∧ Spec.Members mid items (']' :: rest) := by
  refine (reads_word "[").bind fun _ => (reads_rest.bind fun start => (reads_members h start).mono
    (K := fun mid items rest => ∀ cs, start = cs ∧ mid = cs → Spec.Members cs items rest)
    fun _ _ _ h _ hcs => hcs.2 ▸ h).commit.bind fun items =>
    (((reads_word "]").commit.labelled _).expecting _).bind fun _ => reads_pure ?_
  rintro rest _ rfl mid hitems cs hcs
  exact ⟨mid, hcs, hitems⟩

theorem reads_inlinePair {r : Reader Item} (h : Reads r Spec.Value) :
    Reads (inlinePair r) Spec.Pair := by
  refine reads_key.bind fun ks => (reads_equals.bind fun _ => reads_blanks.bind fun _ =>
    h.bind fun v => reads_blanks.bind fun _ => reads_pure ?_).commit
  rintro rest e he d hv c hc _ rfl cs ⟨a, b, ha, hks, hb⟩
  exact .intro ha hks hb hc hv he

theorem Spec.Pair.blanks {cs mid rest : List Char} {p : List Key × Item} (h : Spec.Pair cs p mid)
    (hb : Spec.Blanks mid rest) : Spec.Pair cs p rest := by
  cases h with
  | intro ha hks hb' hc hv he => exact .intro ha hks hb' hc hv (he.trans hb)

theorem Spec.Pair.pairs {cs mid e rest : List Char} {p : List Key × Item}
    {ps : List (List Key × Item)} (h : Spec.Pair cs p mid)
    (hmore : Many (fun cs p rest => ∃ (_ : Unit) (comma : List Char), cs = ",".toList ++ comma ∧
      Spec.Pair comma p rest) mid ps e) (hend : Spec.Blanks e rest) : Spec.Pairs cs (p :: ps) rest := by
  induction hmore generalizing cs p with
  | nil mid => exact .last (h.blanks hend)
  | cons head _ ih =>
    obtain ⟨-, comma, rfl, hnext⟩ := head
    exact .cons h (ih hnext hend)

theorem Spec.Path.ne_nil {cs rest : List Char} {names : List String} (h : Spec.Path cs names rest) :
    names ≠ [] := by
  obtain ⟨name, more, mid, rfl, -⟩ := h
  exact List.cons_ne_nil name more

theorem Spec.Value.isProper {cs rest : List Char} {i : Item} (h : Spec.Value cs i rest) :
    i.IsProper := by
  refine @Spec.Value.rec (fun _ i _ _ => i.IsProper) (fun _ items _ _ => ∀ i ∈ items, i.IsProper)
    (fun _ p _ _ => p.2.IsProper) (fun _ ps _ _ => ∀ p ∈ ps, p.2.IsProper)
    ?string ?integer ?float ?true ?false ?datetime ?array ?inlineTable ?noMember ?lastMember ?member
    ?pair ?noPair ?lastPair ?nextPair cs i rest h
  case string => exact fun _ => .string _ _
  case integer => exact fun _ => .integer _ _
  case float => exact fun _ => .float _ _
  case true => exact .boolean _ _
  case false => exact .boolean _ _
  case datetime => exact fun _ => .datetime _
  case array => exact fun _ hitems => .array hitems
  case inlineTable => exact fun _ _ hproper _ => hproper.isProper _ _
  case noMember => exact fun _ => by simp
  case lastMember => exact fun _ _ _ hi => by simpa using hi
  case member => exact fun _ _ _ _ hi hitems => List.forall_mem_cons.2 ⟨hi, hitems⟩
  case pair => exact fun _ _ _ _ _ _ hv => hv
  case noPair => exact fun _ => by simp
  case lastPair => exact fun _ hp => by simpa using hp
  case nextPair => exact fun _ _ hp hps => List.forall_mem_cons.2 ⟨hp, hps⟩

theorem Spec.Pair.isProper {cs rest : List Char} {p : List Key × Item} (h : Spec.Pair cs p rest) :
    p.2.IsProper := by
  cases h with
  | intro _ _ _ _ hv _ => exact hv.isProper

theorem Spec.Pair.keys_ne_nil {cs rest : List Char} {p : List Key × Item} (h : Spec.Pair cs p rest) :
    p.1 ≠ [] := by
  cases h with
  | intro _ hks _ _ _ _ => exact fun h => hks.ne_nil (congrArg Table.names h)

theorem Spec.Pairs.exists_pair : {cs rest : List Char} → {ps : List (List Key × Item)} →
    Spec.Pairs cs ps rest → ∀ p ∈ ps, ∃ a b, Spec.Pair a p b
  | _, _, _, .nil _ => by simp
  | _, _, _, .last h => by simpa using ⟨_, _, h⟩
  | _, _, _, .cons h hps => List.forall_mem_cons.2 ⟨⟨_, _, h⟩, hps.exists_pair⟩

/-- One pair: no name is there twice after it, and the table holds what the pairs make with it. -/
theorem gathers_of_insert {before : List (List Key × Item)} {ks : List Key} {v : Item} (hks : ks ≠ [])
    (hv : v.IsProper) {made next : List (Key × Item)} (hproper : AreProper made)
    (hmade : Spec.Gathers before (contents made))
    (h : (Table.insert ks v none .inline none made).map Table.entriesOf = .ok next) :
    AreProper next ∧ Spec.Gathers (before ++ [(ks, v)]) (contents next) := by
  cases hinsert : Table.insert ks v none .inline none made with
  | error e =>
    rw [hinsert] at h
    cases h
  | ok i =>
    rw [hinsert] at h
    cases h
    obtain ⟨range, entries, rfl, hedit⟩ := Table.makes_insert hks v none hinsert
    obtain ⟨_, _, hi, hnext⟩ := Table.isSafe_insert ks hv none hproper hinsert
    cases hi
    refine ⟨hnext, ?_⟩
    rw [Table.entriesOf, hedit.contents_eq]
    exact .snoc hmade (Table.isOpen_of_insert hks hproper hinsert) hedit.allowed

/-- By induction on the pairs that are left; `before` are those before. -/
theorem gathers_of_foldlM {before pairs : List (List Key × Item)}
    (hpairs : ∀ p ∈ pairs, p.1 ≠ [] ∧ p.2.IsProper) {made entries : List (Key × Item)}
    (hproper : AreProper made) (hmade : Spec.Gathers before (contents made))
    (h : pairs.foldlM (fun entries (p : List Key × Item) =>
      (Table.insert p.1 p.2 none .inline none entries).map Table.entriesOf) made = .ok entries) :
    AreProper entries ∧ Spec.Gathers (before ++ pairs) (contents entries) := by
  induction pairs generalizing before made with
  | nil =>
    cases h
    rw [List.append_nil]
    exact ⟨hproper, hmade⟩
  | cons p pairs ih =>
    rw [List.foldlM_cons] at h
    obtain ⟨next, hnext, hrest⟩ := Except.bind_eq_ok_iff.1 h
    obtain ⟨⟨hks, hv⟩, hpairs⟩ := List.forall_mem_cons.1 hpairs
    obtain ⟨hproper, hmade⟩ := gathers_of_insert hks hv hproper hmade hnext
    rw [List.append_cons]
    exact ih hpairs hproper hmade hrest

theorem gathers_of_ofPairs {pairs : List (List Key × Item)}
    (hpairs : ∀ p ∈ pairs, p.1 ≠ [] ∧ p.2.IsProper) {entries : List (Key × Item)}
    (h : Table.ofPairs pairs = .ok entries) :
    AreProper entries ∧ Spec.Gathers pairs (contents entries) := by
  have hnil : Spec.Gathers [] (contents []) := by
    rw [contents_nil]
    exact .nil
  exact gathers_of_foldlM hpairs areProper_nil hnil h

theorem reads_pairs {r : Reader Item} (h : Reads r Spec.Value) : Reads (do
    let pairs ← separated (inlinePair r) (word ",")
    blanks
    return pairs) Spec.Pairs := by
  have hpairs : Reads (separated (inlinePair r) (word ",")) fun cs ps mid =>
      (ps = [] ∧ cs = mid) ∨ ∀ rest, Spec.Blanks mid rest → Spec.Pairs cs ps rest :=
    (reads_inlinePair h).separated (reads_word ",") fun _ _ _ _ _ hp hmore _ hend =>
      hp.pairs hmore hend
  refine hpairs.bind fun ps => reads_blanks.bind fun _ => reads_pure ?_
  rintro rest mid hb cs (⟨rfl, rfl⟩ | h)
  · exact .nil hb
  · exact h rest hb

theorem reads_inlineTable {r : Reader Item} (h : Reads r Spec.Value) :
    Reads (inlineTable r) fun cs entries rest => ∃ mid pairs, cs = '{' :: mid ∧
      Spec.Pairs mid pairs ('}' :: rest) ∧ Spec.Gathers pairs (contents entries) ∧
        AreProper entries := by
  have hentries : Reads ((do
      let pairs ← separated (inlinePair r) (word ",")
      blanks
      return pairs).check fun ps => (Table.ofPairs ps).mapError Conflict.message) fun cs entries rest =>
        ∃ pairs, Spec.Pairs cs pairs rest ∧ Table.ofPairs pairs = .ok entries := by
    refine (reads_pairs h).check ?_
    intro cs ps rest entries hps h
    refine ⟨ps, hps, ?_⟩
    cases hof : Table.ofPairs ps with
    | ok es =>
      rw [hof] at h
      cases h
      rfl
    | error e =>
      rw [hof] at h
      cases h
  refine (reads_word "\x7b").bind fun _ => hentries.commit.bind fun entries =>
    (((reads_word "\x7d").commit.labelled _).expecting _).bind fun _ => reads_pure ?_
  rintro rest _ rfl mid ⟨pairs, hps, hentries⟩ cs hcs
  have hpairs : ∀ p ∈ pairs, p.1 ≠ [] ∧ p.2.IsProper := by
    intro p hp
    obtain ⟨a, b, hpair⟩ := hps.exists_pair p hp
    exact ⟨hpair.keys_ne_nil, hpair.isProper⟩
  obtain ⟨hproper, hgathers⟩ := gathers_of_ofPairs hpairs hentries
  exact ⟨mid, pairs, hcs, hps, hgathers, hproper⟩

theorem reads_value (depth : Nat) : Reads (value depth) Spec.Value := by
  induction depth with
  | zero => exact reads_tooDeep
  | succ depth ih =>
    have harray : Reads (at_ (array (value depth)) .array) Spec.Value := by
      refine (reads_array ih).at_ ?_
      rintro _ items range rest ⟨mid, rfl, hitems⟩
      exact .array hitems
    have htable : Reads (at_ (inlineTable (value depth)) fun es r => .table .inline (some r) es)
        Spec.Value := by
      refine (reads_inlineTable ih).at_ ?_
      rintro _ entries range rest ⟨mid, pairs, rfl, hpairs, hentries, hproper⟩
      exact .inlineTable hpairs hentries hproper
    have hinfinity : Reads (at_ (expectingString infinity) .float) Spec.Value := by
      refine ((reads_infinity.labelled _).expecting _).at_ ?_
      rintro _ x range rest ⟨rfl, rfl⟩
      exact .float (.infinite (Or.inl ⟨rfl, Or.inl rfl⟩))
    have hnan : Reads (at_ (expectingString notANumber) .float) Spec.Value := by
      refine ((reads_notANumber.labelled _).expecting _).at_ ?_
      rintro _ x range rest ⟨rfl, rfl⟩
      exact .float (.nan (Or.inl ⟨rfl, Or.inl rfl⟩))
    have htrue : Reads (at_ (expectingString (commit (word "true"))) fun _ r => .boolean true r)
        Spec.Value := by
      refine (((reads_word "true").commit.labelled _).expecting _).at_ ?_
      rintro _ _ range rest rfl
      exact .true
    have hfalse : Reads (at_ (expectingString (commit (word "false"))) fun _ r => .boolean false r)
        Spec.Value := by
      refine (((reads_word "false").commit.labelled _).expecting _).at_ ?_
      rintro _ _ range rest rfl
      exact .false
    have htext : Reads (at_ text .string) Spec.Value := reads_text.at_ fun _ _ _ _ h => .string h
    have hdatetime : Reads (at_ datetime fun _ r => .datetime r) Spec.Value :=
      reads_datetime.at_ fun _ _ _ _ h => .datetime h
    have hfloat : Reads (at_ float .float) Spec.Value := reads_float.at_ fun _ _ _ _ h => .float h
    have hinteger : Reads (at_ integer .integer) Spec.Value :=
      reads_integer.at_ fun _ _ _ _ h => .integer h
    have hzero : Reads (at_ (integer.expecting ["leading digit"]) .integer) Spec.Value :=
      (reads_integer.expecting _).at_ fun _ _ _ _ h => .integer h
    have hpoint : Reads (at_ (float.expecting ["leading digit"]) .float) Spec.Value :=
      (reads_float.expecting _).at_ fun _ _ _ _ h => .float h
    have hdeep {r : Reader Item} (hr : Reads r Spec.Value) :
        Reads (if depth = 0 then tooDeep else r) Spec.Value := by
      split
      · exact reads_tooDeep
      · exact hr
    rw [value]
    refine (reads_ahead_any.bind fun c => ?_)
    refine Reads.mono (G := Spec.Value) ?_ fun mid v rest h cs hcs => hcs.1 ▸ h
    split
    · exact htext
    · exact htext
    · exact hdeep harray
    · exact hdeep htable
    · exact htrue
    · exact hfalse
    · exact hinfinity
    · exact hnan
    · exact hzero
    · exact hpoint
    · split
      · exact hdatetime.orElse (hfloat.orElse hinteger)
      · exact (reads_fail.labelled _).expecting _

/-! ### Lines -/

def Spec.Statement.apply (d : Draft) : Spec.Statement → Except Conflict Draft
  | .table element path range => d.openTable element path range
  | .pair ks v => d.insert ks v

/-- What a reader of a line does: it reads one line, up to its end, and does to the document so far
what the line says. Blanks before the line are read already. -/
def Spec.ReadsLine (d : Draft) (cs : List Char) (d' : Draft) (rest : List Char) : Prop :=
  ∃ sts e, (∀ start, Spec.Blanks start cs → Spec.Line start sts e) ∧
    (Spec.Newline e rest ∨ (e = [] ∧ rest = [])) ∧ sts.foldlM Spec.Statement.apply d = .ok d'

theorem foldlM_singleton (d : Draft) (st : Spec.Statement) :
    [st].foldlM Spec.Statement.apply d = st.apply d := by
  rw [List.foldlM_cons]
  cases st.apply d <;> rfl

theorem checked_eq_ok {r : Except Conflict Draft} {d : Draft} (h : checked r = .ok d) : r = .ok d := by
  cases r with
  | ok d' =>
    cases h
    rfl
  | error e => cases h

theorem reads_trailing : Reads trailing fun cs _ rest =>
    ∃ mid, Spec.Trailing cs mid ∧ (Spec.Newline mid rest ∨ (mid = [] ∧ rest = [])) :=
  reads_lineTrailing.commit.expecting _

/-- A header between its brackets, of whatever kind. -/
theorem reads_bracketed (d : Draft) (element : Bool) (opening closing : String)
    (hline : ∀ cs a b c e path range end_, Spec.Blanks cs (opening.toList ++ a) → Spec.Blanks a b →
      Spec.Path b (Table.names path) c → Spec.Blanks c (closing.toList ++ e) → Spec.Trailing e end_ →
        Spec.Line cs [.table element path range] end_) :
    Reads (check (fun (path, range) => checked (d.openTable element path range)) do
      let (path, range) ← located do
        word opening
        let path ← commit key
        (commit (word closing)).expecting ["`.`", "`" ++ closing ++ "`"]
        return path
      trailing
      return (path, range)) (Spec.ReadsLine d) := by
  have hpath : Reads (do
      word opening
      let path ← commit key
      (commit (word closing)).expecting ["`.`", "`" ++ closing ++ "`"]
      return path) fun cs path e => ∃ a b c, cs = opening.toList ++ a ∧ Spec.Blanks a b ∧
        Spec.Path b (Table.names path) c ∧ Spec.Blanks c (closing.toList ++ e) := by
    refine (reads_word opening).bind fun _ => reads_key.commit.bind fun path =>
      ((reads_word closing).commit.expecting _).bind fun _ => reads_pure ?_
    rintro e _ rfl a ⟨b, c, hb, hpath, hc⟩ cs hcs
    exact ⟨a, b, c, hcs, hb, hpath, hc⟩
  have hall : Reads (do
      let (path, range) ← located do
        word opening
        let path ← commit key
        (commit (word closing)).expecting ["`.`", "`" ++ closing ++ "`"]
        return path
      trailing
      return (path, range)) fun cs (p : List Key × Range) rest => ∃ e,
        (∀ start, Spec.Blanks start cs → Spec.Line start [.table element p.1 p.2] e) ∧
          (Spec.Newline e rest ∨ (e = [] ∧ rest = [])) := by
    refine hpath.located.bind fun p => reads_trailing.bind fun _ => reads_pure ?_
    rintro rest e ⟨end_, htrailing, hend⟩ _ ⟨a, b, c, rfl, hb, hpath, hc⟩
    exact ⟨end_, fun start hstart => hline _ _ _ _ _ _ _ _ hstart hb hpath hc htrailing, hend⟩
  refine hall.check ?_
  rintro cs ⟨path, range⟩ rest d' ⟨e, hlines, hend⟩ hd'
  refine ⟨_, e, hlines, hend, ?_⟩
  rw [foldlM_singleton]
  exact checked_eq_ok hd'

theorem reads_header (d : Draft) : Reads (header d) (Spec.ReadsLine d) := by
  refine Reads.labelled ?_ _
  refine reads_rest.bind fun start => ?_
  simp only
  split
  · exact reads_fail
  · have hstart {r : Reader Draft} (h : Reads r (Spec.ReadsLine d)) : Reads r fun mid d' rest =>
        ∀ cs, start = cs ∧ mid = cs → Spec.ReadsLine d cs d' rest :=
      h.mono fun _ _ _ hline _ hcs => hcs.2 ▸ hline
    by_cases helement : start.take 2 = ['[', '[']
    · simp only [helement, decide_true, if_true]
      exact hstart (reads_bracketed d true "[[" "]]" fun _ _ _ _ _ _ _ _ ha hb hpath hc he =>
        .element ha hb hpath hc he)
    · simp only [helement, decide_false, if_false]
      exact hstart (reads_bracketed d false "[" "]" fun _ _ _ _ _ _ _ _ ha hb hpath hc he =>
        .table ha hb hpath hc he)

theorem reads_pair (d : Draft) : Reads (pair d) (Spec.ReadsLine d) := by
  have hpair : Reads (do
      let ks ← key
      commit do
        equals
        blanks
        let v ← value depthLimit
        trailing
        return (ks, v)) fun cs p rest => ∃ e,
          (∀ start, Spec.Blanks start cs → Spec.Line start [.pair p.1 p.2] e) ∧
            (Spec.Newline e rest ∨ (e = [] ∧ rest = [])) := by
    refine reads_key.bind fun ks => (reads_equals.bind fun _ => reads_blanks.bind fun _ =>
      (reads_value depthLimit).bind fun v => reads_trailing.bind fun _ => reads_pure ?_).commit
    rintro rest f ⟨e, ⟨g, hblanks, hcomment⟩, hend⟩ d hv c hc _ rfl cs ⟨a, b, ha, hks, hb⟩
    exact ⟨e, fun start hstart => .pair (.intro (hstart.trans ha) hks hb hc hv hblanks) hcomment, hend⟩
  refine hpair.check ?_
  rintro cs ⟨ks, v⟩ rest d' ⟨e, hline, hend⟩ hd'
  refine ⟨_, e, hline, hend, ?_⟩
  rw [foldlM_singleton]
  exact checked_eq_ok hd'

theorem reads_statement (d : Draft) : Reads (statement d) fun cs d' rest =>
    cs ≠ [] ∧ ∃ mid, Spec.ReadsLine d cs d' mid ∧ Spec.Blanks mid rest := by
  have hend : Reads (orElse newline atEnd) fun cs _ rest =>
      Spec.Newline cs rest ∨ (cs = [] ∧ rest = []) :=
    (reads_newline.mono fun _ _ _ h => Or.inl h).orElse (reads_atEnd.mono fun _ _ _ h => Or.inr h)
  have hcomment : Reads (commit do
      comment
      orElse newline atEnd
      return d) (Spec.ReadsLine d) := by
    refine (reads_comment.bind fun _ => hend.bind fun _ => reads_pure ?_).commit
    intro rest mid hend cs hcomment
    exact ⟨[], mid, fun start hstart => .blank ⟨cs, hstart, Or.inr hcomment⟩, hend, rfl⟩
  have hblanks {r : Reader Draft} (h : Reads r (Spec.ReadsLine d)) :
      Reads (do let d ← r; blanks; return d) fun cs d' rest =>
        ∃ mid, Spec.ReadsLine d cs d' mid ∧ Spec.Blanks mid rest :=
    h.bind fun d' => reads_blanks.bind fun _ => reads_pure fun _ mid hb _ h => ⟨mid, h, hb⟩
  have hempty : Reads (do newline; blanks; return d) fun cs d' rest =>
      ∃ mid, Spec.ReadsLine d cs d' mid ∧ Spec.Blanks mid rest := by
    refine reads_newline.bind fun _ => reads_blanks.bind fun _ => reads_pure ?_
    intro rest mid hb cs hn
    exact ⟨mid, ⟨[], cs, fun start hstart => .blank ⟨cs, hstart, Or.inl rfl⟩, Or.inl hn, rfl⟩, hb⟩
  refine reads_ahead_any.bind fun c => ?_
  refine Reads.mono (G := fun cs d' rest => ∃ mid, Spec.ReadsLine d cs d' mid ∧ Spec.Blanks mid rest)
    ?_ fun mid d' rest h cs hcs => ⟨hcs.2, hcs.1 ▸ h⟩
  split
  · exact hblanks hcomment
  · exact hblanks (reads_header d).commit
  · exact hempty
  · exact hempty
  · exact hblanks (reads_pair d).commit

/-- By induction on the number of lines. `start` are the blanks that are read already; at the end of
the text, nothing is left to say. -/
theorem reads_statements (n : Nat) (d : Draft) : Reads (statements n d) fun cs d' rest =>
    (cs = [] → d' = d) ∧ ∀ start, Spec.Blanks start cs → rest = [] →
      ∃ sts, Spec.Lines start sts ∧ sts.foldlM Spec.Statement.apply d = .ok d' := by
  induction n generalizing d with
  | zero =>
    refine reads_pure fun cs => ⟨fun _ => rfl, ?_⟩
    rintro start hstart rfl
    exact ⟨[], .last (.blank ⟨[], hstart, Or.inl rfl⟩), rfl⟩
  | succ n ih =>
    refine ((reads_statement d).attempt (H := fun cs o rest => o.elim (cs = rest) fun d' =>
      cs ≠ [] ∧ ∃ mid, Spec.ReadsLine d cs d' mid ∧ Spec.Blanks mid rest)
      (fun _ _ _ h => h) fun _ => rfl).bind fun o => ?_
    cases o with
    | none =>
      apply reads_pure
      rintro cs _ rfl
      refine ⟨fun _ => rfl, ?_⟩
      rintro start hstart rfl
      exact ⟨[], .last (.blank ⟨[], hstart, Or.inl rfl⟩), rfl⟩
    | some d₁ =>
      refine (ih d₁).mono ?_
      rintro mid d' rest ⟨hnil, hmore⟩ cs ⟨hne, next, ⟨sts, e, hline, hend, hsts⟩, hb⟩
      refine ⟨fun h => absurd h hne, ?_⟩
      rintro start hstart rfl
      rcases hend with hend | ⟨rfl, rfl⟩
      · obtain ⟨more, hlines, hmoreSts⟩ := hmore next hb rfl
        refine ⟨sts ++ more, .cons (hline start hstart) hend hlines, ?_⟩
        rw [List.foldlM_append, hsts]
        exact hmoreSts
      · have hmid : mid = [] := by
          obtain ⟨w, hw, -⟩ := hb
          exact (List.append_eq_nil_iff.1 hw.symm).2
        rw [hnil hmid]
        exact ⟨sts, .last (hline start hstart), hsts⟩

/-! ### Documents -/

/-- What the parser makes sure of before the line is looked at in the document. -/
def Spec.Statement.IsProper : Spec.Statement → Prop
  | .table _ path _ => path ≠ []
  | .pair ks v => ks ≠ [] ∧ v.IsProper

theorem Spec.Lines.isProper {cs : List Char} {sts : List Spec.Statement} (h : Spec.Lines cs sts) :
    ∀ st ∈ sts, st.IsProper := by
  have hline {cs rest : List Char} {sts : List Spec.Statement} (h : Spec.Line cs sts rest) :
      ∀ st ∈ sts, st.IsProper := by
    cases h with
    | blank => exact fun st hst => nomatch hst
    | table _ _ hpath _ _ =>
      exact List.forall_mem_singleton.2 fun h => hpath.ne_nil (congrArg Table.names h)
    | element _ _ hpath _ _ =>
      exact List.forall_mem_singleton.2 fun h => hpath.ne_nil (congrArg Table.names h)
    | pair hp => exact List.forall_mem_singleton.2 ⟨hp.keys_ne_nil, hp.isProper⟩
  induction h with
  | last h => exact hline h
  | cons h _ _ ih =>
    intro st hst
    rcases List.mem_append.1 hst with hst | hst
    · exact hline h st hst
    · exact ih st hst

/-- One line: no name is there twice after it, and the document holds what the lines make with it. -/
theorem builds_of_apply {sts : List Spec.Statement} {st : Spec.Statement} (hst : st.IsProper)
    {d d' : Draft} (hd : AreProper d.entries)
    (hbuilds : Spec.Builds sts (Table.names d.path) (contents d.entries)) (h : st.apply d = .ok d') :
    AreProper d'.entries ∧
      Spec.Builds (sts ++ [st]) (Table.names d'.path) (contents d'.entries) := by
  cases st with
  | table element path range =>
    refine ⟨Draft.areProper_openTable hd h, ?_⟩
    cases element with
    | true =>
      obtain ⟨hedit, hpath⟩ := Draft.isEdit_openTable_true hst h
      rw [hpath, hedit.contents_eq]
      exact .element hbuilds ⟨hedit.passable, absurd (List.dropLast_prefix _)⟩ hedit.allowed
    | false =>
      obtain ⟨hedit, hpath⟩ := Draft.isEdit_openTable_false hst h
      rw [hpath, hedit.contents_eq]
      exact .table hbuilds ⟨hedit.passable, absurd (List.dropLast_prefix _)⟩ hedit.allowed
  | pair ks v =>
    refine ⟨Draft.areProper_insert hst.2 hd h, ?_⟩
    obtain ⟨hedit, hpath⟩ := Draft.isEdit_insert hst.1 h
    rw [hpath, hedit.contents_eq]
    exact .pair hbuilds (Draft.isOpen_insert hst.1 hd h) hedit.allowed

/-- By induction on the lines that are left; `before` are those before. -/
theorem builds_of_foldlM {before sts : List Spec.Statement} (hsts : ∀ st ∈ sts, st.IsProper)
    {d d' : Draft} (hd : AreProper d.entries)
    (hbuilds : Spec.Builds before (Table.names d.path) (contents d.entries))
    (h : sts.foldlM Spec.Statement.apply d = .ok d') :
    AreProper d'.entries ∧
      Spec.Builds (before ++ sts) (Table.names d'.path) (contents d'.entries) := by
  induction sts generalizing before d with
  | nil =>
    cases h
    rw [List.append_nil]
    exact ⟨hd, hbuilds⟩
  | cons st sts ih =>
    rw [List.foldlM_cons] at h
    obtain ⟨next, hnext, hrest⟩ := Except.bind_eq_ok_iff.1 h
    obtain ⟨hst, hsts⟩ := List.forall_mem_cons.1 hsts
    obtain ⟨hproper, hbuilds⟩ := builds_of_apply hst hd hbuilds hnext
    rw [List.append_cons]
    exact ih hsts hproper hbuilds hrest

/-- A text that is parsed is a document, and its entries are what its lines make. -/
theorem document_of_parse {source : String} {entries : List (Key × Item)}
    (h : parse source = .ok entries) : AreProper entries ∧ ∃ sts path,
      Spec.Document source.toList sts ∧ Spec.Builds sts path (contents entries) := by
  have hmark : Reads (attempt (word "\uFEFF")) fun cs _ rest => cs = rest ∨ cs = '\uFEFF' :: rest :=
    (reads_word "\uFEFF").attempt (fun _ _ _ h => Or.inr h) fun _ => Or.inl rfl
  have hdocument : Reads document fun cs entries _ => ∃ sts path, Spec.Document cs sts ∧
      sts.foldlM Spec.Statement.apply ⟨[], []⟩ = .ok ⟨entries, path⟩ := by
    refine hmark.bind fun _ => reads_blanks.bind fun _ => reads_rest.bind fun _ =>
      (reads_statements _ _).bind fun d => reads_atEnd.bind fun _ => reads_pure ?_
    rintro _ _ ⟨rfl, rfl⟩ mid ⟨-, hlines⟩ _ ⟨-, rfl⟩ start hb cs hstart
    obtain ⟨sts, hsts, hfold⟩ := hlines start hb rfl
    exact ⟨sts, d.path, ⟨start, hstart, hsts⟩, hfold⟩
  unfold parse at h
  split at h
  · rename_i hr
    cases h
    obtain ⟨sts, path, hsts, hfold⟩ := (hdocument hr).2
    obtain ⟨start, hstart, hlines⟩ := hsts
    have hempty : Spec.Builds [] (Table.names []) (contents []) := by
      rw [contents_nil]
      exact .nil
    obtain ⟨hproper, hbuilds⟩ := builds_of_foldlM hlines.isProper areProper_nil hempty hfold
    exact ⟨hproper, sts, _, ⟨start, hstart, hlines⟩, hbuilds⟩
  · cases h
  · cases h

end TypeScriptRepl.Toml
