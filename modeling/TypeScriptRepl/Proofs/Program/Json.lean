import TypeScriptRepl.Program.Json
import TypeScriptRepl.Proofs.Json.Records
import TypeScriptRepl.Proofs.Json.Text
import TypeScriptRepl.Proofs.Program.Spans

/-! Programs as JSON texts, which are read as the programs that they were written for. -/
namespace TypeScriptRepl

open Syntax Text

/-! Values that are read as the same programs. -/

namespace Span

def SameJson : Json → Json → Prop :=
  Json.SameRecord ["start", "end", "line", "col"] [] fun _ => Eq

theorem ofJson?_eq {j j' : Json} (h : SameJson j j') : ofJson? j = ofJson? j' := by
  refine h.bind_record?_eq fun fs gs same => ?_
  have word (key : String) (hk : key ∈ ["start", "end", "line", "col"]) :=
    same.field?_eq Json.word? key .nil hk (by simp) fun _ _ => congrArg _
  simp only [word "start" (by simp), word "end" (by simp), word "line" (by simp),
    word "col" (by simp)]

end Span

namespace Declaration

def SameJson : Json → Json → Prop :=
  Json.SameRecord ["name", "kind", "exported", "span"] [] fun key =>
    if key = "span" then Span.SameJson else Eq

theorem ofJson?_eq {j j' : Json} (h : SameJson j j') : ofJson? j = ofJson? j' := by
  refine h.bind_record?_eq fun fs gs same => ?_
  have hname := same.field?_eq Json.string? "name" .nil (by simp) (by simp) fun _ _ => congrArg _
  have hkind := same.field?_eq DeclarationKind.ofJson? "kind" .nil (by simp) (by simp)
    fun _ _ => congrArg _
  have hexported := same.field?_eq Json.bool? "exported" .nil (by simp) (by simp)
    fun _ _ => congrArg _
  have hspan := same.field?_eq Span.ofJson? "span" .nil (by simp) (by simp)
    fun _ _ => Span.ofJson?_eq
  simp only [hname, hkind, hexported, hspan]

end Declaration

namespace ImportBinding

def SameJson : Json → Json → Prop :=
  Json.SameRecord ["local", "span"] [] fun key => if key = "span" then Span.SameJson else Eq

theorem ofJson?_eq {j j' : Json} (h : SameJson j j') : ofJson? j = ofJson? j' := by
  refine h.bind_record?_eq fun fs gs same => ?_
  have hname := same.field?_eq Json.string? "local" .nil (by simp) (by simp) fun _ _ => congrArg _
  have hspan := same.field?_eq Span.ofJson? "span" .nil (by simp) (by simp)
    fun _ _ => Span.ofJson?_eq
  simp only [hname, hspan]

end ImportBinding

namespace Import

def SameJson : Json → Json → Prop :=
  Json.SameRecord ["bindings", "span"] [] fun key =>
    if key = "bindings" then Json.SameList ImportBinding.SameJson else Span.SameJson

theorem ofJson?_eq {j j' : Json} (h : SameJson j j') : ofJson? j = ofJson? j' := by
  refine h.bind_record?_eq fun fs gs same => ?_
  have hbindings := same.field?_eq (Json.list? ImportBinding.ofJson?) "bindings" .nil (by simp)
    (by simp) fun _ _ h => Json.list?_eq h fun _ _ => ImportBinding.ofJson?_eq
  have hspan := same.field?_eq Span.ofJson? "span" .nil (by simp) (by simp)
    fun _ _ => Span.ofJson?_eq
  simp only [hbindings, hspan]

end Import

namespace ExportSpecifier

def SameJson : Json → Json → Prop := Json.SameRecord ["local", "exported"] [] fun _ => Eq

theorem ofJson?_eq {j j' : Json} (h : SameJson j j') : ofJson? j = ofJson? j' := by
  refine h.bind_record?_eq fun fs gs same => ?_
  have hname := same.field?_eq Json.string? "local" .nil (by simp) (by simp) fun _ _ => congrArg _
  have hexported := same.field?_eq Json.string? "exported" .nil (by simp) (by simp)
    fun _ _ => congrArg _
  simp only [hname, hexported]

end ExportSpecifier

namespace ExportList

/-- A clause without a source module may leave it out. -/
def SameJson : Json → Json → Prop :=
  Json.SameRecord ["specifiers", "source", "span"] [("source", .null)] fun key =>
    if key = "specifiers" then Json.SameList ExportSpecifier.SameJson
    else if key = "source" then Eq else Span.SameJson

theorem ofJson?_eq {j j' : Json} (h : SameJson j j') : ofJson? j = ofJson? j' := by
  refine h.bind_record?_eq fun fs gs same => ?_
  have once : ((Json.known ["specifiers", "source", "span"] [("source", .null)]).map (·.1)).Nodup := by
    simp [Json.known]
  have hspecifiers := same.field?_eq (Json.list? ExportSpecifier.ofJson?) "specifiers" once
    (by simp) (by simp) fun _ _ h => Json.list?_eq h fun _ _ => ExportSpecifier.ofJson?_eq
  have hsource := same.fieldOr?_eq (Json.option? Json.string?) "source" once (by simp)
    List.mem_cons_self rfl fun _ _ => congrArg _
  have hspan := same.field?_eq Span.ofJson? "span" once (by simp) (by simp)
    fun _ _ => Span.ofJson?_eq
  simp only [hspecifiers, hsource, hspan]

theorem source_of_ofJson? {fs : List (String × Json)} (hs : ∀ f ∈ fs, f.1 ≠ "source")
    {l : ExportList} (h : ofJson? (.object fs) = some l) : l.source = none := by
  have hsource : (Json.object fs).fieldOr? (Json.option? Json.string?) none "source" = some none := by
    rw [Json.fieldOr?, Json.get?_eq_none_iff.2 hs]
  rw [ofJson?, Json.record?] at h
  simp only [Option.bind_eq_bind, Option.bind_some, hsource, Option.bind_eq_some_iff] at h
  obtain ⟨_, -, _, -, h⟩ := h
  rw [← Option.some.inj h]

end ExportList

namespace Item

/-- The wrapped record is the same. The wrapper has one field, which tells what the item is. -/
inductive SameJson : Json → Json → Prop
  | same (j : Json) : SameJson j j
  | imports {x y : Json} (h : Import.SameJson x y) :
      SameJson (.object [("Import", x)]) (.object [("Import", y)])
  | declares {x y : Json} (h : Declaration.SameJson x y) :
      SameJson (.object [("Declaration", x)]) (.object [("Declaration", y)])
  | exports {x y : Json} (h : ExportList.SameJson x y) :
      SameJson (.object [("ExportList", x)]) (.object [("ExportList", y)])

theorem ofJson?_eq {j j' : Json} (h : SameJson j j') : ofJson? j = ofJson? j' := by
  cases h with
  | same => rfl
  | imports h => simp [ofJson?, Import.ofJson?_eq h]
  | declares h => simp [ofJson?, Declaration.ofJson?_eq h]
  | exports h => simp [ofJson?, ExportList.ofJson?_eq h]

end Item

namespace Program

def SameJson : Json → Json → Prop :=
  Json.SameRecord ["items", "span"] [] fun key =>
    if key = "items" then Json.SameList Item.SameJson else Span.SameJson

/-- The order of fields, unknown fields and a source module that is left out are no matter. -/
theorem ofJson?_eq {j j' : Json} (h : SameJson j j') : ofJson? j = ofJson? j' := by
  refine h.bind_record?_eq fun fs gs same => ?_
  have hitems := same.field?_eq (Json.list? Item.ofJson?) "items" .nil (by simp) (by simp)
    fun _ _ h => Json.list?_eq h fun _ _ => Item.ofJson?_eq
  have hspan := same.field?_eq Span.ofJson? "span" .nil (by simp) (by simp)
    fun _ _ => Span.ofJson?_eq
  simp only [hitems, hspan]

end Program

/-! What is written is read. -/

namespace Span

structure FitsWords (s : Span) : Prop where
  start : s.start < UInt64.size
  stop : s.stop < UInt64.size
  line : s.line < UInt64.size
  column : s.column < UInt64.size

end Span

theorem Json.word?_natural {n : Nat} (h : n < UInt64.size) : word? (.integer n) = some n := by
  have hn : (0 : Int) ≤ n ∧ (n : Int) < UInt64.size := ⟨Int.natCast_nonneg n, Int.ofNat_lt.2 h⟩
  simp only [word?, hn, and_self, if_true, Int.toNat_natCast]

namespace Span

theorem ofJson?_toJson {s : Span} (h : s.FitsWords) : ofJson? s.toJson = some s := by
  have hstart : s.toJson.field? Json.word? "start" = some s.start :=
    Json.field?_of_mem (by simp) (by simp) (Json.word?_natural h.start)
  have hstop : s.toJson.field? Json.word? "end" = some s.stop :=
    Json.field?_of_mem (by simp) (by simp) (Json.word?_natural h.stop)
  have hline : s.toJson.field? Json.word? "line" = some s.line :=
    Json.field?_of_mem (by simp) (by simp) (Json.word?_natural h.line)
  have hcolumn : s.toJson.field? Json.word? "col" = some s.column :=
    Json.field?_of_mem (by simp) (by simp) (Json.word?_natural h.column)
  have hrecord (keys : List String) : s.toJson.record? keys = some s.toJson := rfl
  rw [ofJson?, Json.bind_of_eq_some (hrecord _), Json.bind_of_eq_some hstart,
    Json.bind_of_eq_some hstop, Json.bind_of_eq_some hline, Json.bind_of_eq_some hcolumn]
  rfl

theorem readsBack_toJson (s : Span) : s.toJson.ReadsBack := by
  refine Json.readsBack_object ?_
  simp [Json.readsInside_natural]

end Span

theorem DeclarationKind.ofJson?_text (k : DeclarationKind) : ofJson? (.string k.text) = some k := by
  cases k <;> decide

namespace Declaration

theorem ofJson?_toJson {d : Declaration} (h : d.span.FitsWords) : ofJson? d.toJson = some d := by
  have hname : d.toJson.field? Json.string? "name" = some d.name :=
    Json.field?_of_mem (x := .string d.name) (by simp) (by simp) rfl
  have hkind : d.toJson.field? DeclarationKind.ofJson? "kind" = some d.kind :=
    Json.field?_of_mem (by simp) (by simp) d.kind.ofJson?_text
  have hexported : d.toJson.field? Json.bool? "exported" = some d.exported :=
    Json.field?_of_mem (x := .bool d.exported) (by simp) (by simp) rfl
  have hspan : d.toJson.field? Span.ofJson? "span" = some d.span :=
    Json.field?_of_mem (by simp) (by simp) (Span.ofJson?_toJson h)
  have hrecord (keys : List String) : d.toJson.record? keys = some d.toJson := rfl
  rw [ofJson?, Json.bind_of_eq_some (hrecord _), Json.bind_of_eq_some hname,
    Json.bind_of_eq_some hkind, Json.bind_of_eq_some hexported, Json.bind_of_eq_some hspan]
  rfl

theorem readsBack_toJson (d : Declaration) : d.toJson.ReadsBack := by
  refine Json.readsBack_object ?_
  simp [(Json.readsBack_string _).inside, (Json.readsBack_bool _).inside, d.span.readsBack_toJson.inside]

end Declaration

namespace ImportBinding

theorem ofJson?_toJson {b : ImportBinding} (h : b.span.FitsWords) : ofJson? b.toJson = some b := by
  have hname : b.toJson.field? Json.string? "local" = some b.name :=
    Json.field?_of_mem (x := .string b.name) (by simp) (by simp) rfl
  have hspan : b.toJson.field? Span.ofJson? "span" = some b.span :=
    Json.field?_of_mem (by simp) (by simp) (Span.ofJson?_toJson h)
  have hrecord (keys : List String) : b.toJson.record? keys = some b.toJson := rfl
  rw [ofJson?, Json.bind_of_eq_some (hrecord _), Json.bind_of_eq_some hname,
    Json.bind_of_eq_some hspan]
  rfl

theorem readsBack_toJson (b : ImportBinding) : b.toJson.ReadsBack := by
  refine Json.readsBack_object ?_
  simp [(Json.readsBack_string _).inside, b.span.readsBack_toJson.inside]

end ImportBinding

namespace Import

theorem ofJson?_toJson {i : Import} (hb : ∀ b ∈ i.bindings, b.span.FitsWords)
    (hs : i.span.FitsWords) : ofJson? i.toJson = some i := by
  have hbindings : i.toJson.field? (Json.list? ImportBinding.ofJson?) "bindings" = some i.bindings :=
    Json.field?_of_mem (by simp) (by simp)
      (Json.list?_map fun b hm => ImportBinding.ofJson?_toJson (hb b hm))
  have hspan : i.toJson.field? Span.ofJson? "span" = some i.span :=
    Json.field?_of_mem (by simp) (by simp) (Span.ofJson?_toJson hs)
  have hrecord (keys : List String) : i.toJson.record? keys = some i.toJson := rfl
  rw [ofJson?, Json.bind_of_eq_some (hrecord _), Json.bind_of_eq_some hbindings,
    Json.bind_of_eq_some hspan]
  rfl

theorem readsBack_toJson (i : Import) : i.toJson.ReadsBack := by
  have hbindings : (Json.array (i.bindings.map (·.toJson))).ReadsBack :=
    Json.readsBack_array (List.forall_mem_map.2 fun b _ => b.readsBack_toJson.inside)
  refine Json.readsBack_object ?_
  simp [hbindings.inside, i.span.readsBack_toJson.inside]

end Import

namespace ExportSpecifier

theorem ofJson?_toJson (x : ExportSpecifier) : ofJson? x.toJson = some x := by
  have hname : x.toJson.field? Json.string? "local" = some x.name :=
    Json.field?_of_mem (x := .string x.name) (by simp) (by simp) rfl
  have hexported : x.toJson.field? Json.string? "exported" = some x.exportedAs :=
    Json.field?_of_mem (x := .string x.exportedAs) (by simp) (by simp) rfl
  have hrecord (keys : List String) : x.toJson.record? keys = some x.toJson := rfl
  rw [ofJson?, Json.bind_of_eq_some (hrecord _), Json.bind_of_eq_some hname,
    Json.bind_of_eq_some hexported]
  rfl

theorem readsBack_toJson (x : ExportSpecifier) : x.toJson.ReadsBack := by
  refine Json.readsBack_object ?_
  simp [(Json.readsBack_string _).inside]

end ExportSpecifier

namespace ExportList

theorem ofJson?_toJson {l : ExportList} (h : l.span.FitsWords) : ofJson? l.toJson = some l := by
  have hspecifiers : l.toJson.field? (Json.list? ExportSpecifier.ofJson?) "specifiers" =
      some l.specifiers :=
    Json.field?_of_mem (by simp) (by simp) (Json.list?_map fun x _ => x.ofJson?_toJson)
  have hsource : l.toJson.fieldOr? (Json.option? Json.string?) none "source" = some l.source := by
    have hget : l.toJson.get? "source" = some (.ofOption .string l.source) := rfl
    rw [Json.fieldOr?, hget]
    cases l.source <;> rfl
  have hspan : l.toJson.field? Span.ofJson? "span" = some l.span :=
    Json.field?_of_mem (by simp) (by simp) (Span.ofJson?_toJson h)
  have hrecord (keys : List String) : l.toJson.record? keys = some l.toJson := rfl
  rw [ofJson?, Json.bind_of_eq_some (hrecord _), Json.bind_of_eq_some hspecifiers,
    Json.bind_of_eq_some hsource, Json.bind_of_eq_some hspan]
  rfl

theorem readsBack_toJson (l : ExportList) : l.toJson.ReadsBack := by
  have hspecifiers : (Json.array (l.specifiers.map (·.toJson))).ReadsBack :=
    Json.readsBack_array (List.forall_mem_map.2 fun x _ => x.readsBack_toJson.inside)
  have hsource : (Json.ofOption .string l.source).ReadsBack := by
    cases l.source with
    | none => exact Json.readsBack_null
    | some name => exact Json.readsBack_string name
  refine Json.readsBack_object ?_
  simp [hspecifiers.inside, hsource.inside, l.span.readsBack_toJson.inside]

end ExportList

namespace Item

theorem ofJson?_toJson {i : Item} (h : ∀ σ ∈ i.spans, σ.FitsWords) : ofJson? i.toJson = some i := by
  cases i with
  | imports i =>
    have hb : ∀ b ∈ i.bindings, b.span.FitsWords := fun b hb => h b.span (by
      simp only [spans, bindings, List.map_map]
      exact List.mem_append_right _ (List.mem_map.2 ⟨b, hb, rfl⟩))
    simp [toJson, ofJson?, Import.ofJson?_toJson hb (h i.span List.mem_cons_self)]
  | declares d => simp [toJson, ofJson?, Declaration.ofJson?_toJson (h d.span List.mem_cons_self)]
  | exports l => simp [toJson, ofJson?, ExportList.ofJson?_toJson (h l.span List.mem_cons_self)]

theorem readsBack_toJson (i : Item) : i.toJson.ReadsBack := by
  cases i with
  | imports i => exact Json.readsBack_object (by simp [i.readsBack_toJson.inside])
  | declares d => exact Json.readsBack_object (by simp [d.readsBack_toJson.inside])
  | exports l => exact Json.readsBack_object (by simp [l.readsBack_toJson.inside])

end Item

namespace Program

def FitsWords (p : Program) : Prop := ∀ σ ∈ p.spans, σ.FitsWords

theorem ofJson?_toJson {p : Program} (h : p.FitsWords) : ofJson? p.toJson = some p := by
  have hi (i : Item) (hi : i ∈ p.items) : ∀ σ ∈ i.spans, σ.FitsWords := fun σ hσ =>
    h σ (List.mem_cons_of_mem _ (List.mem_flatMap.2 ⟨i, hi, hσ⟩))
  have hitems : p.toJson.field? (Json.list? Item.ofJson?) "items" = some p.items :=
    Json.field?_of_mem (by simp) (by simp) (Json.list?_map fun i hm => Item.ofJson?_toJson (hi i hm))
  have hspan : p.toJson.field? Span.ofJson? "span" = some p.span :=
    Json.field?_of_mem (by simp) (by simp) (Span.ofJson?_toJson (h p.span List.mem_cons_self))
  have hrecord (keys : List String) : p.toJson.record? keys = some p.toJson := rfl
  rw [ofJson?, Json.bind_of_eq_some (hrecord _), Json.bind_of_eq_some hitems,
    Json.bind_of_eq_some hspan]
  rfl

theorem readsBack_toJson (p : Program) : p.toJson.ReadsBack := by
  have hitems : (Json.array (p.items.map (·.toJson))).ReadsBack :=
    Json.readsBack_array (List.forall_mem_map.2 fun i _ => i.readsBack_toJson.inside)
  refine Json.readsBack_object ?_
  simp [hitems.inside, p.span.readsBack_toJson.inside]

def ofText? (cs : List Char) : Option Program := (Json.parse? cs).bind ofJson?

theorem ofText?_render {p : Program} (h : p.FitsWords) : ofText? p.toJson.render = some p := by
  rw [ofText?, p.readsBack_toJson.parse?, Option.bind_some, ofJson?_toJson h]

end Program

/-! Programs of texts. Their spans count bytes, lines and characters of the text. -/

theorem Span.Covers.fitsWords {text piece : List Char} {σ : Span} (h : σ.Covers text piece)
    (hsize : byteLength text + 1 < UInt64.size) : σ.FitsWords := by
  obtain ⟨before, after, rfl, hstart, hstop, hline, hcolumn⟩ := h
  have hlast : (lastLine before).length ≤ before.length := (List.rtakeWhile_suffix ..).length_le
  have hcount : before.count '\n' ≤ before.length := List.count_le_length
  have hlength := length_le_byteLength before
  rw [byteLength_append, byteLength_append] at hsize
  constructor <;> omega

namespace Program

theorem PlacedIn.fitsWords {text : List Char} {p : Program} (h : p.PlacedIn text)
    (hsize : byteLength text + 1 < UInt64.size) : p.FitsWords := fun σ hσ => by
  obtain ⟨_, hc⟩ := h.spans σ hσ
  exact hc.fitsWords hsize

variable {grammar : List Char → Option Node} {source : String} {p : Program}

theorem fitsWords_of_parseBy
    (hg : ∀ root, grammar source.toList = some root → root.PlacedIn source.toList)
    (hsize : byteLength source.toList + 1 < UInt64.size) (hp : parseBy grammar source = .ok p) :
    p.FitsWords := by
  refine PlacedIn.fitsWords ?_ hsize
  rw [parseBy] at hp
  split at hp
  case h_1 => cases hp
  case h_2 root hroot => exact placedIn_ofTree (hg root hroot) hp

theorem ofSourceBy_of_parseBy (hp : parseBy grammar source = .ok p) :
    Extraction.ofSourceBy grammar source = .ok (Extraction.ofProgram p) := by
  rw [Extraction.ofSourceBy, hp]
  rfl

/-- Every program whose numbers are words is read from what is written for it, so that what is extracted
from a text is what is extracted from the program that is read. The numbers of the program of a text are
words, if the text is not too long for this and the nodes of its tree stand at pieces of it. What is read
depends on the fields of each record alone, and a clause that names no source module has none. -/
theorem programs_survive_json :
    (∀ p : Program, p.FitsWords → ofText? p.toJson.render = some p) ∧
    (∀ (grammar : List Char → Option Node) (source : String) (p : Program),
      parseBy grammar source = .ok p → p.FitsWords → ∃ q, ofText? p.toJson.render = some q ∧
        Extraction.ofSourceBy grammar source = .ok (Extraction.ofProgram q)) ∧
    (∀ (grammar : List Char → Option Node) (source : String) (p : Program),
      (∀ root, grammar source.toList = some root → root.PlacedIn source.toList) →
      byteLength source.toList + 1 < UInt64.size → parseBy grammar source = .ok p → p.FitsWords) ∧
    (∀ j j', SameJson j j' → ofJson? j = ofJson? j') ∧
    ∀ (fs : List (String × Json)) (l : ExportList), (∀ f ∈ fs, f.1 ≠ "source") →
      ExportList.ofJson? (.object fs) = some l → l.source = none :=
  ⟨fun _ => ofText?_render,
    fun _ _ p hp hfits => ⟨p, ofText?_render hfits, ofSourceBy_of_parseBy hp⟩,
    fun _ _ _ => fitsWords_of_parseBy, fun _ _ => ofJson?_eq,
    fun _ _ hs => ExportList.source_of_ofJson? hs⟩

/-- A clause without a source module, with a quote in a name: its program, and what is written for it,
in another order, with a field that no record has and without the source module. -/
theorem programs_survive_json_reordered :
    let source := "export\x7bx as 'a\"b'\x7d"
    let p : Program := ⟨[.exports ⟨[⟨"x", "a\"b"⟩], none, ⟨0, 18, 1, 1⟩⟩], ⟨0, 18, 1, 1⟩⟩
    let span := Json.object [("col", .integer 1), ("line", .integer 1), ("end", .integer 18),
      ("start", .integer 0)]
    let specifier := Json.object [("exported", .string "a\"b"), ("local", .string "x")]
    let clause := Json.object [("span", span), ("specifiers", .array [specifier])]
    let written := Json.object [("span", span), ("version", .null),
      ("items", .array [.object [("ExportList", clause)]])]
    Program.parseBy tree? source = .ok p ∧
    (∃ q, ofText? p.toJson.render = some q ∧
      Extraction.ofSourceBy tree? source = .ok (Extraction.ofProgram q)) ∧
    SameJson p.toJson written ∧ ofJson? written = some p ∧
    ∃ l, ExportList.ofJson? clause = some l ∧ l.source = none := by
  intro source p span specifier clause written
  have hd : (tree? source.toList).map (fun root => (root.hasError, root.isPlacedIn source.toList,
      (⟨root.namedChildren.flatMap (Node.items source.toList), root.span source.toList⟩ : Program))) =
      some (false, true, p) := by
    decide +kernel
  obtain ⟨root, hr, h⟩ := Option.map_eq_some_iff.1 hd
  simp only [Prod.mk.injEq] at h
  obtain ⟨he, hplaced, hprogram⟩ := h
  have hg : ∀ r, tree? source.toList = some r → r.PlacedIn source.toList := by
    intro r h'
    obtain rfl := Option.some.inj (hr.symm.trans h')
    exact Node.placedIn_of_isPlacedIn root hplaced
  have hp : Program.parseBy tree? source = .ok p := by
    rw [Program.parseBy, hr, ← hprogram]
    exact Program.ofTree_of_errorFree he
  have hspan : Span.SameJson (Span.toJson ⟨0, 18, 1, 1⟩) span :=
    .some _ _ rfl rfl (.of_gives .nil (by simp [Json.known]) (by simp [Json.known])
      (by simp [Json.Gives]))
  have hspecifier : ExportSpecifier.SameJson (ExportSpecifier.toJson ⟨"x", "a\"b"⟩) specifier :=
    .some _ _ rfl rfl (.of_gives .nil (by simp [Json.known]) (by simp [Json.known])
      (by simp [Json.Gives]))
  have hclause : ExportList.SameJson
      (ExportList.toJson ⟨[⟨"x", "a\"b"⟩], none, ⟨0, 18, 1, 1⟩⟩) clause := by
    refine .some _ _ rfl rfl (.of_gives (by simp [Json.known]) (by simp [Json.known])
      (by simp [Json.known]) ?_)
    refine List.forall_mem_cons.2 ⟨⟨_, _, Or.inl (.head _), Or.inl (.tail _ (.head _)),
      .array (.cons hspecifier .nil)⟩, List.forall_mem_cons.2 ⟨⟨_, _, Or.inl (.tail _ (.head _)),
      Or.inr ⟨by simp, .head _⟩, rfl⟩, List.forall_mem_cons.2
      ⟨⟨_, _, Or.inl (.tail _ (.tail _ (.head _))), Or.inl (.head _), hspan⟩, ?_⟩⟩⟩
    exact fun _ h => absurd h List.not_mem_nil
  have hsame : SameJson p.toJson written := by
    refine .some _ _ rfl rfl (.of_gives .nil (by simp [Json.known]) (by simp [Json.known]) ?_)
    refine List.forall_mem_cons.2 ⟨⟨_, _, Or.inl (.head _), Or.inl (.tail _ (.tail _ (.head _))),
      .array (.cons (.exports hclause) .nil)⟩, List.forall_mem_cons.2
      ⟨⟨_, _, Or.inl (.tail _ (.head _)), Or.inl (.head _), hspan⟩, ?_⟩⟩
    exact fun _ h => absurd h List.not_mem_nil
  obtain ⟨hback, htext, hwords, hread, hsource⟩ := programs_survive_json
  have hfits : p.FitsWords := hwords tree? source p hg (by decide) hp
  have hwritten : ofJson? written = some p := by
    have hown := hback p hfits
    rw [ofText?, p.readsBack_toJson.parse?, Option.bind_some] at hown
    rw [← hread _ _ hsame, hown]
  have hlist : ExportList.ofJson? clause = some ⟨[⟨"x", "a\"b"⟩], none, ⟨0, 18, 1, 1⟩⟩ := by
    rw [← ExportList.ofJson?_eq hclause]
    exact ExportList.ofJson?_toJson (hfits _ List.mem_cons_self)
  exact ⟨hp, htext tree? source p hp hfits, hsame, hwritten, _, hlist, hsource _ _ (by simp) hlist⟩

end Program
end TypeScriptRepl
