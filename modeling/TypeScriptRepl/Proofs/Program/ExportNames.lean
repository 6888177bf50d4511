import Mathlib.Data.List.DropRight
import TypeScriptRepl.Proofs.Export.Extraction
import TypeScriptRepl.Proofs.Program.Comments

/-! Names of exports that are spelled as string literals. -/
namespace TypeScriptRepl

open Grammar Syntax

namespace Text

def isQuoteSign (c : Char) : Bool := c = '"' || c = '\''

def between (text : List Char) : List Char := text.tail.dropLast

def IsLiteral (text : List Char) : Prop :=
  ∃ q content, isQuoteSign q = true ∧ text = q :: (content ++ [q])

theorem between_quotes (q : Char) (content : List Char) :
    between (q :: (content ++ [q])) = content := by
  simp [between]

theorem isLiteral_iff {text : List Char} : IsLiteral text ↔
    text.head?.any (fun q => isQuoteSign q && text = q :: (between text ++ [q])) = true := by
  constructor
  · rintro ⟨q, content, hq, rfl⟩
    simp [hq, between_quotes]
  · intro h
    obtain ⟨q, -, h⟩ := (Option.any_eq_true _ _).1 h
    rw [Bool.and_eq_true, decide_eq_true_eq] at h
    exact ⟨q, _, h⟩

instance (text : List Char) : Decidable (IsLiteral text) := decidable_of_iff' _ isLiteral_iff

def hasQuoteAtEdge (text : List Char) : Bool :=
  text.head?.any isQuoteSign || text.getLast?.any isQuoteSign

section Trim

variable {α : Type} {p : α → Bool} {as : List α}

theorem head?_dropWhile_rdropWhile (as : List α) :
    ((as.dropWhile p).rdropWhile p).head?.any p = false := by
  have hd := List.head?_dropWhile_not p as
  -- the second cut leaves a prefix of what the first one left, so both begin alike
  obtain ⟨rest, hr⟩ := List.rdropWhile_prefix p (as.dropWhile p)
  cases h : (as.dropWhile p).rdropWhile p with
  | nil => rfl
  | cons a bs =>
    rw [h] at hr
    rw [← hr] at hd
    exact hd

theorem getLast?_rdropWhile (as : List α) : (as.rdropWhile p).getLast?.any p = false := by
  by_cases h : as.rdropWhile p = []
  · rw [h]
    rfl
  · rw [List.getLast?_eq_some_getLast h, Option.any_some]
    exact Bool.eq_false_iff.2 (List.rdropWhile_last_not p as h)

/-- Cutting off what has a property at both ends finds what stands between two ends that have it
if, and only if, no further end has it. -/
theorem dropWhile_rdropWhile_eq_iff {q : α} (hq : p q = true) :
    ((q :: (as ++ [q])).dropWhile p).rdropWhile p = as ↔
      as.head?.any p = false ∧ as.getLast?.any p = false := by
  constructor
  · intro h
    have hhead := head?_dropWhile_rdropWhile (p := p) (q :: (as ++ [q]))
    have hlast := getLast?_rdropWhile (p := p) ((q :: (as ++ [q])).dropWhile p)
    rw [h] at hhead hlast
    exact ⟨hhead, hlast⟩
  · rintro ⟨hhead, hlast⟩
    rw [List.dropWhile_cons_of_pos hq]
    cases as with
    | nil => simp [hq]
    | cons a as =>
      have ha : ¬p a = true := by simpa using hhead
      rw [List.cons_append, List.dropWhile_cons_of_neg ha, ← List.cons_append,
        List.rdropWhile_concat_pos _ _ _ hq, List.rdropWhile_eq_self_iff]
      intro hne
      rw [List.getLast?_eq_some_getLast hne] at hlast
      exact Bool.eq_false_iff.1 hlast

end Trim

end Text

def Item.exportList? : Item → Option ExportList
  | .exports l => some l
  | _ => none

theorem Item.exportList?_declares (ds : List Declaration) :
    (ds.map Item.declares).filterMap Item.exportList? = [] := by
  rw [List.filterMap_map]
  exact List.filterMap_eq_nil_iff.2 fun _ _ => rfl

theorem Program.exportLists_eq (p : Program) :
    p.exportLists = p.items.filterMap Item.exportList? := by
  refine congrArg (List.filterMap · _) (funext fun i => ?_)
  cases i <;> rfl

namespace Syntax

open Text

/-- The nodes that spell the names of a specifier: the one by which the exporting module knows it,
none if it is all of that module, and the one that importers see. -/
structure SpecifierNodes where
  name : Option Node
  exportedAs : Node

namespace SpecifierNodes

def nodes (s : SpecifierNodes) : List Node := s.name.toList ++ [s.exportedAs]

def read (f : Node → String) (s : SpecifierNodes) : ExportSpecifier :=
  ⟨(s.name.map f).getD "*", f s.exportedAs⟩

theorem read_eq_iff {f g : Node → String} {s : SpecifierNodes} :
    s.read f = s.read g ↔ ∀ m ∈ s.nodes, f m = g m := by
  obtain ⟨name, exportedAs⟩ := s
  cases name <;> simp [read, nodes]

end SpecifierNodes

structure ClauseNodes where
  statement : Node
  specifiers : List SpecifierNodes

namespace ClauseNodes

def source (c : ClauseNodes) : Option Node := c.statement.child? .source

def nodes (c : ClauseNodes) : List Node :=
  c.specifiers.flatMap SpecifierNodes.nodes ++ c.source.toList

def read (text : List Char) (f : Node → String) (c : ClauseNodes) : ExportList :=
  ⟨c.specifiers.map (·.read f), c.source.map f, c.statement.span text⟩

theorem read_eq_iff {text : List Char} {f g : Node → String} {c : ClauseNodes} :
    c.read text f = c.read text g ↔ ∀ m ∈ c.nodes, f m = g m := by
  have hsource : c.source.map f = c.source.map g ↔ ∀ m ∈ c.source.toList, f m = g m := by
    cases c.source <;> simp
  have hspecifiers : c.specifiers.map (·.read f) = c.specifiers.map (·.read g) ↔
      ∀ m ∈ c.specifiers.flatMap SpecifierNodes.nodes, f m = g m := by
    rw [List.map_inj_left, List.forall_mem_flatMap]
    exact forall₂_congr fun s _ => s.read_eq_iff
  rw [nodes, List.forall_mem_append, ← hspecifiers, ← hsource]
  simp [read]

theorem exportedAs_mem_nodes {c : ClauseNodes} {s : SpecifierNodes} (hs : s ∈ c.specifiers) :
    s.exportedAs ∈ c.nodes :=
  List.mem_append_left _ (List.mem_flatMap.2 ⟨s, hs, List.mem_append_right _ List.mem_cons_self⟩)

end ClauseNodes

namespace Node

def specifierNodes? (n : Node) : Option SpecifierNodes :=
  if n.kind ≠ .exportSpecifier || n.hasToken "type" then none
  else (n.child? .name).map fun name => ⟨some name, (n.child? .alias).getD name⟩

/-- The specifiers in a part of an export statement. The name of a namespace is no comment. -/
def specifierNodes (n : Node) : List SpecifierNodes :=
  match n.kind with
  | .exportClause => n.namedChildren.filterMap specifierNodes?
  | .namespaceExport => (n.namedChildren.find? (·.kind ≠ .htmlComment)).toList.map (⟨none, ·⟩)
  | _ => []

def clauseNodes? (n : Node) : Option ClauseNodes :=
  if n.kind ≠ .exportStatement || (n.child? .declaration).isSome || (n.child? .value).isSome ||
      n.hasToken "type" then none
  else
    match n.namedChildren.flatMap specifierNodes with
    | [] => none
    | specifiers => some ⟨n, specifiers⟩

def exportClauses (root : Node) : List ClauseNodes := root.namedChildren.filterMap clauseNodes?

/-- Where a node exports a whole module, no HTML comment stands before the name for it. -/
def IsUncommented (n : Node) : Prop :=
  n.kind = .namespaceExport → ∀ m ∈ n.namedChildren.head?, m.kind ≠ .htmlComment

instance (n : Node) : Decidable n.IsUncommented :=
  inferInstanceAs (Decidable (_ → ∀ m ∈ n.namedChildren.head?, _))

def HasUncommentedParts (root : Node) : Prop :=
  ∀ n ∈ root.namedChildren, ∀ c ∈ n.namedChildren, c.IsUncommented

instance (root : Node) : Decidable root.HasUncommentedParts :=
  inferInstanceAs (Decidable (∀ n ∈ root.namedChildren, ∀ c ∈ n.namedChildren, _))

variable {text : List Char} {n m root : Node}

theorem exportSpecifier_eq_read (n : Node) :
    n.exportSpecifier text = n.specifierNodes?.map (·.read (exportName text)) := by
  rw [exportSpecifier, specifierNodes?]
  split
  · rfl
  · cases n.child? .name with
    | none => rfl
    | some name => cases h : n.child? .alias <;> simp [SpecifierNodes.read]

theorem exportSpecifiers_eq_read (hn : n.IsUncommented) :
    n.exportSpecifiers text = n.specifierNodes.map (·.read (exportName text)) := by
  rw [exportSpecifiers]
  split
  case h_1 hk =>
    simp only [specifierNodes, hk, List.map_filterMap]
    exact congrArg (List.filterMap · _) (funext exportSpecifier_eq_read)
  case h_2 hk =>
    have hn := hn hk
    simp only [specifierNodes, hk, List.map_map]
    cases hc : n.namedChildren with
    | nil => rfl
    | cons m ms =>
      rw [hc] at hn
      have hm : m.kind ≠ .htmlComment := hn m rfl
      simp [hm, SpecifierNodes.read]
  case h_3 _ hclause hnamespace =>
    rw [specifierNodes]
    split
    case h_1 hk => exact (hclause hk).elim
    case h_2 hk => exact (hnamespace hk).elim
    case h_3 => rfl

theorem flatMap_exportSpecifiers (hn : ∀ c ∈ n.namedChildren, c.IsUncommented) :
    n.namedChildren.flatMap (exportSpecifiers text) =
      (n.namedChildren.flatMap specifierNodes).map (·.read (exportName text)) := by
  rw [List.map_flatMap, List.flatMap_def, List.flatMap_def,
    List.map_congr_left fun c hc => exportSpecifiers_eq_read (hn c hc)]

theorem exportLists_exportItems (hk : n.kind = .exportStatement)
    (hn : ∀ c ∈ n.namedChildren, c.IsUncommented) :
    (n.exportItems text).filterMap Item.exportList? =
      n.clauseNodes?.toList.map (·.read text (exportName text)) := by
  rw [exportItems, clauseNodes?]
  cases hd : n.child? .declaration with
  | some d => simpa [hk] using Item.exportList?_declares _
  | none =>
    cases hv : n.child? .value with
    | some v => simpa [hk] using Item.exportList?_declares _
    | none =>
      cases ht : n.hasToken "type" with
      | true => simp [hk]
      | false =>
        simp only [flatMap_exportSpecifiers hn, hk]
        cases n.namedChildren.flatMap specifierNodes with
        | nil => simp
        | cons s specifiers =>
          simp [Item.exportList?, ClauseNodes.read, ClauseNodes.source]

/-- What a statement says of exports besides its declarations. -/
theorem exportLists_items (hn : ∀ c ∈ n.namedChildren, c.IsUncommented) :
    (n.items text).filterMap Item.exportList? =
      n.clauseNodes?.toList.map (·.read text (exportName text)) := by
  by_cases hk : n.kind = .exportStatement
  · simp only [items, hk]
    exact exportLists_exportItems hk hn
  · have hc : n.clauseNodes? = none := by simp [clauseNodes?, hk]
    rw [hc, items]
    split
    case h_1 => split <;> rfl
    case h_2 =>
      rw [List.filterMap_map]
      exact List.filterMap_eq_nil_iff.2 fun _ _ => rfl
    case h_3 hk' => exact (hk hk').elim
    case h_4 => exact Item.exportList?_declares _

/-- The export clauses of a program are those that the nodes spell. -/
theorem exportLists_ofTree {p : Program} (hroot : root.HasUncommentedParts)
    (hp : Program.ofTree text root = .ok p) :
    p.exportLists = root.exportClauses.map (·.read text (exportName text)) := by
  rw [Program.ofTree] at hp
  split at hp
  · cases hp
  · cases hp
    rw [Program.exportLists_eq, List.filterMap_flatMap, exportClauses, List.map_filterMap,
      List.filterMap_eq_flatMap_toList, List.flatMap_def, List.flatMap_def,
      List.map_congr_left fun n hn => exportLists_items (hroot n hn)]
    simp only [Option.toList_map]

/-! What the names are: a literal is known by what stands between its quotes. -/

def spelledName (text : List Char) (n : Node) : String :=
  if n.kind = .string then String.ofList (between (n.text text)) else n.nameText text

def hasQuotedEdge (text : List Char) (n : Node) : Bool :=
  n.kind = .string && hasQuoteAtEdge (between (n.text text))

theorem exportName_eq_spelledName_iff (hl : n.kind = .string → IsLiteral (n.text text)) :
    n.exportName text = n.spelledName text ↔ n.hasQuotedEdge text = false := by
  by_cases hk : n.kind = .string
  · obtain ⟨q, content, hq, ht⟩ := hl hk
    have he : n.exportName text =
        String.ofList (((n.text text).dropWhile isQuoteSign).rdropWhile isQuoteSign) := by
      rw [exportName, if_pos hk]
      rfl
    rw [he, spelledName, if_pos hk, hasQuotedEdge, ht, between_quotes, String.ofList_inj,
      dropWhile_rdropWhile_eq_iff hq]
    simp [hk, hasQuoteAtEdge]
  · simp [exportName, spelledName, hasQuotedEdge, hk]

/-- No literal among the names in export clauses has a quote at an edge of its content. -/
def HasPlainNames (text : List Char) (root : Node) : Prop :=
  ∀ c ∈ root.exportClauses, ∀ m ∈ c.nodes, m.hasQuotedEdge text = false

instance (text : List Char) (root : Node) : Decidable (root.HasPlainNames text) :=
  inferInstanceAs (Decidable (∀ c ∈ root.exportClauses, ∀ m ∈ c.nodes, _))

end Node

end Syntax

namespace Program

open Text Node

/-- Whether importers see a name because of a declaration, or of one of the export clauses. -/
def ExportsBy (p : Program) (ls : List ExportList) (name : String) : Prop :=
  (∃ d ∈ p.declarations, d.exported = true ∧ d.name = name) ∨
    ∃ l ∈ ls, ∃ s ∈ l.specifiers, s.exportedAs = name

instance (p : Program) (ls : List ExportList) (name : String) : Decidable (p.ExportsBy ls name) :=
  inferInstanceAs (Decidable (_ ∨ _))

variable {p : Program} {name : String} {grammar : List Char → Option Node} {source : String}
  {root : Node}

theorem parseBy_of_errorFree (hg : grammar source.toList = some root)
    (he : root.hasError = false) : parseBy grammar source =
      .ok ⟨root.namedChildren.flatMap (·.items source.toList), root.span source.toList⟩ := by
  rw [parseBy, hg]
  exact ofTree_of_errorFree he

theorem exportsBy_of_exports (h : p.Exports name) : p.ExportsBy p.exportLists name := by
  obtain ⟨i, hi, h⟩ := h
  cases i with
  | imports i => exact h.elim
  | declares d => exact Or.inl ⟨d, List.mem_filterMap.2 ⟨_, hi, rfl⟩, h⟩
  | exports l => exact Or.inr ⟨l, List.mem_filterMap.2 ⟨_, hi, rfl⟩, h⟩

theorem exports_of_takes (h : p.Takes name) : p.Exports name := by
  obtain ⟨i, hi, h⟩ := h
  cases i with
  | imports i => exact h.elim
  | declares d => exact h.elim
  | exports l =>
    obtain ⟨s, hs, -, hname, -⟩ := h
    exact ⟨_, hi, s, hs, hname⟩

theorem exports_of_exposes (h : p.Exposes name) :
    p.Exports name ∨ p.Exports (internalName name) := by
  obtain ⟨i, hi, h⟩ := h
  cases i with
  | imports i => exact h.elim
  | declares d => exact Or.inl ⟨_, hi, h⟩
  | exports l =>
    obtain ⟨s, hs, h⟩ := h
    rw [ExportSpecifier.Exposes] at h
    split at h
    · exact Or.inl ⟨_, hi, s, hs, h⟩
    · exact h.2.imp (fun hname => ⟨_, hi, s, hs, hname⟩) fun hname => ⟨_, hi, s, hs, hname⟩

/-- What export clauses record of the names in them. Each name is the one that its node spells, but
for literals that have a quote at an edge of their content. Without those, different exports have
different names, and what counts as exposed or taken are names that the module exports. Of the
parser this is used: its literals have their quotes around them. -/
theorem exportLists_parseBy (hg : grammar source.toList = some root)
    (hl : ∀ c ∈ root.exportClauses, ∀ m ∈ c.nodes, m.kind = .string →
      IsLiteral (m.text source.toList))
    (hc : root.HasUncommentedParts) (hp : parseBy grammar source = .ok p) :
    let text := source.toList
    let clauses := root.exportClauses
    let spelled := clauses.map (·.read text (spelledName text))
    p.exportLists = clauses.map (·.read text (exportName text)) ∧
    (∀ c ∈ clauses, ∀ m ∈ c.nodes,
      m.exportName text = m.spelledName text ↔ m.hasQuotedEdge text = false) ∧
    (p.exportLists = spelled ↔ root.HasPlainNames text) ∧
    (∀ s ∈ clauses.flatMap (·.specifiers), ∀ t ∈ clauses.flatMap (·.specifiers),
      s.exportedAs.hasQuotedEdge text = false → t.exportedAs.hasQuotedEdge text = false →
      s.exportedAs.spelledName text ≠ t.exportedAs.spelledName text →
        (s.read (exportName text)).exportedAs ≠ (t.read (exportName text)).exportedAs) ∧
    (root.HasPlainNames text → ∀ name,
      (name ∈ (ExportTable.ofProgram p).exposed →
        p.ExportsBy spelled name ∨ p.ExportsBy spelled (internalName name)) ∧
      (name ∈ (ExportTable.ofProgram p).taken → p.ExportsBy spelled name)) := by
  intro text clauses spelled
  have hread : p.exportLists = clauses.map (·.read text (exportName text)) := by
    rw [parseBy, hg] at hp
    exact exportLists_ofTree hc hp
  have hname : ∀ c ∈ clauses, ∀ m ∈ c.nodes,
      m.exportName text = m.spelledName text ↔ m.hasQuotedEdge text = false :=
    fun c hc m hm => exportName_eq_spelledName_iff (hl c hc m hm)
  have hspelled : p.exportLists = spelled ↔ root.HasPlainNames text := by
    rw [hread, List.map_inj_left]
    refine forall₂_congr fun c hc => ?_
    rw [ClauseNodes.read_eq_iff]
    exact forall₂_congr (hname c hc)
  refine ⟨hread, hname, hspelled, fun s hs t ht hps hpt hne heq => hne ?_, fun hplain name => ?_⟩
  · have hexported (s : SpecifierNodes) (hs : s ∈ clauses.flatMap (·.specifiers)) :
        s.exportedAs.hasQuotedEdge text = false →
          (s.read (exportName text)).exportedAs = s.exportedAs.spelledName text := by
      obtain ⟨c, hc, hs⟩ := List.mem_flatMap.1 hs
      exact (hname c hc _ (ClauseNodes.exportedAs_mem_nodes hs)).2
    rwa [hexported s hs hps, hexported t ht hpt] at heq
  · rw [← hspelled.2 hplain, ExportTable.mem_exposed_ofProgram, ExportTable.mem_taken_ofProgram]
    exact ⟨fun h => (exports_of_exposes h).imp exportsBy_of_exports exportsBy_of_exports,
      fun h => exportsBy_of_exports (exports_of_takes h)⟩

theorem exportLists_parseBy_quoteWithin :
    let source := "export\x7bx as\"a'b\"\x7d"
    let text := source.toList
    ∃ root p, tree? text = some root ∧
      (∀ c ∈ root.exportClauses, ∀ m ∈ c.nodes, m.kind = .string → IsLiteral (m.text text)) ∧
      root.HasUncommentedParts ∧ parseBy tree? source = .ok p ∧ root.HasPlainNames text ∧
      p.exportLists.map (·.specifiers) = [[⟨"x", "a'b"⟩]] ∧
      p.exportLists = root.exportClauses.map (·.read text (spelledName text)) := by
  intro source text
  have hd : (tree? text).any (fun root =>
      !root.hasError && decide (root.HasUncommentedParts) && decide (root.HasPlainNames text) &&
      decide (∀ c ∈ root.exportClauses, ∀ m ∈ c.nodes,
        m.kind = .string → IsLiteral (m.text text)) &&
      decide (root.exportClauses.map (fun c => c.specifiers.map (·.read (exportName text))) =
        [[⟨"x", "a'b"⟩]])) = true := by
    decide +kernel
  obtain ⟨root, hr, h⟩ := (Option.any_eq_true _ _).1 hd
  simp only [Bool.and_eq_true, Bool.not_eq_true', decide_eq_true_eq] at h
  obtain ⟨⟨⟨⟨he, hc⟩, hplain⟩, hl⟩, hs⟩ := h
  have hp := parseBy_of_errorFree hr he
  obtain ⟨hread, -, hspelled, -⟩ := exportLists_parseBy hr hl hc hp
  refine ⟨root, _, hr, hl, hc, hp, hplain, ?_, hspelled.2 hplain⟩
  rw [hread, List.map_map]
  exact hs

/-- Quotes within quotes are lost: a variable that the module exports under another name only counts
as exposed, and gets no export statement. -/
theorem not_exportLists_quotesWithinQuotes :
    let source := "let x;export\x7bx as\"'x'\"\x7d"
    let text := source.toList
    ∃ root p, tree? text = some root ∧ parse source = .ok p ∧
      (root.exportClauses.flatMap ClauseNodes.nodes).map (fun m => String.ofList (m.text text)) =
        ["x", "\"'x'\""] ∧
      p.exportLists.map (·.specifiers) = [[⟨"x", "x"⟩]] ∧
      "x" ∈ (ExportTable.ofProgram p).exposed ∧
      ¬p.ExportsBy (root.exportClauses.map (·.read text (spelledName text))) "x" ∧
      (Extraction.ofProgram p).statements = [] := by
  intro source text
  have hd : (tree? text).any (fun root =>
      let p : Program := ⟨root.namedChildren.flatMap (Node.items text), root.span text⟩
      !root.hasError &&
      decide ((root.exportClauses.flatMap ClauseNodes.nodes).map
        (fun m => String.ofList (m.text text)) = ["x", "\"'x'\""]) &&
      decide (p.exportLists.map (·.specifiers) = [[⟨"x", "x"⟩]]) &&
      decide ("x" ∈ (ExportTable.ofProgram p).exposed) &&
      decide (¬p.ExportsBy (root.exportClauses.map (·.read text (spelledName text))) "x") &&
      decide ((Extraction.ofProgram p).statements = [])) = true := by
    decide +kernel
  obtain ⟨root, hr, h⟩ := (Option.any_eq_true _ _).1 hd
  simp only [Bool.and_eq_true, Bool.not_eq_true', decide_eq_true_eq] at h
  obtain ⟨⟨⟨⟨⟨he, htexts⟩, hspecifiers⟩, hexposed⟩, hnot⟩, hstatements⟩ := h
  have hp := parseBy_of_errorFree hr he
  rw [parseBy_tree?] at hp
  exact ⟨root, _, hr, hp, htexts, hspecifiers, hexposed, hnot, hstatements⟩

end Program
end TypeScriptRepl
