import TypeScriptRepl.Proofs.Export.Followed
import TypeScriptRepl.Proofs.Harness.ModuleGrammar
import TypeScriptRepl.Proofs.Json.Quoted
import TypeScriptRepl.Proofs.Text.Slice
import TypeScriptRepl.Text.Extent

/-! A grammar of lines, which has what is relied on of the grammar of modules. -/
namespace TypeScriptRepl.Harness.LineGrammar

open Grammar Syntax Text

/-- A node over a piece of a text, after all that stands before it. -/
def node (before text : List Char) (kind : NodeKind) (field : Option Field)
    (children : List Node) : Node :=
  let e := Extent.ofList before
  .mk ⟨kind, field, ⟨byteLength before, byteLength before + byteLength text, e.rows, e.columns⟩,
    false, false⟩ children

theorem outline_node {source before text : List Char} (h : before ++ text <+: source)
    (kind : NodeKind) (field : Option Field) (children : List Node) :
    (node before text kind field children).outline source =
      .mk kind field text (children.map (Node.outline source)) := by
  obtain ⟨after, rfl⟩ := h
  have ht : (node before text kind field children).text (before ++ text ++ after) = text := by
    show (slice? (before ++ text ++ after) (byteLength before)
      (byteLength before + byteLength text)).getD [] = text
    rw [slice?_byteLength, Option.getD_some]
  rw [← Node.outlines_eq_map]
  exact congrArg (Outline.mk kind field · _) ht

inductive Form where
  | constant
  | function
  | namespaceImport
  | clause
  | call
  | other
deriving DecidableEq

def Form.keyword : Form → List Char
  | constant => ['c', 'o', 'n', 's', 't', ' ']
  | function => ['f', 'u', 'n', 'c', 't', 'i', 'o', 'n', ' ']
  | namespaceImport => ['i', 'm', 'p', 'o', 'r', 't', ' ', '*', ' ', 'a', 's', ' ']
  | clause => ['e', 'x', 'p', 'o', 'r', 't', ' ', '\x7b', ' ']
  | call | other => []

/-- A line: a keyword, a word and the rest. -/
structure Line where
  form : Form
  name : List Char
  rest : List Char

def closing : List Char := [' ', '\x7d', ';']

def aliasing : List Char := [' ', 'a', 's', ' ']

namespace Line

def isWord (c : Char) : Bool := c.isAlphanum || c = '_' || c = '$'

def text (l : Line) : List Char := l.form.keyword ++ l.name ++ l.rest

def ofText (cs : List Char) : Line :=
  match [Form.constant, .function, .namespaceImport, .clause].find?
      (·.keyword.isPrefixOf cs) with
  | some f =>
    let cs := cs.drop f.keyword.length
    ⟨f, cs.takeWhile isWord, cs.dropWhile isWord⟩
  | none =>
    let rest := cs.dropWhile isWord
    ⟨if rest.head? = some '(' then .call else .other, cs.takeWhile isWord, rest⟩

@[simp] theorem text_ofText (cs : List Char) : (ofText cs).text = cs := by
  unfold ofText
  split
  case h_1 f h =>
    have hk := List.find?_some h
    rw [List.isPrefixOf_iff_prefix, List.prefix_iff_eq_append] at hk
    rw [text, List.append_assoc, List.takeWhile_append_dropWhile, hk]
  case h_2 =>
    have hk : (if (cs.dropWhile isWord).head? = some '(' then Form.call
        else .other).keyword = [] := by
      split <;> rfl
    simp only [text, hk, List.nil_append, List.takeWhile_append_dropWhile]

/-- What a specifier exports its name as, if it says so. -/
def alias? (l : Line) : Option (List Char) :=
  let a := (l.rest.drop aliasing.length).takeWhile isWord
  if l.rest = aliasing ++ a ++ closing then some a else none

/-- Whether the line is one of the grammar. Only an export clause can be wrong. -/
def isValid (l : Line) : Bool :=
  l.form ≠ .clause ||
    ((l.rest = closing || l.alias?.isSome) && String.ofList l.name ∉ specifierModifiers)

def nodes (before : List Char) (l : Line) : List Node :=
  let name (f : Option Field) := node (before ++ l.form.keyword) l.name .identifier f []
  match l.form with
  | .constant =>
    [node before l.text .lexicalDeclaration none
      [node (before ++ l.form.keyword) (l.name ++ l.rest) .variableDeclarator none
        [name (some .name)]]]
  | .function => [node before l.text .functionDeclaration none [name (some .name)]]
  | .namespaceImport =>
    let all := "* as ".toList ++ l.name
    [node before l.text .importStatement none
      [node (before ++ "import ".toList) all .importClause none
        [node (before ++ "import ".toList) all .namespaceImport none [name none]],
      node (before ++ l.form.keyword ++ l.name) l.rest .string (some .source) []]]
  | .clause =>
    let other (a : List Char) :=
      node (before ++ l.form.keyword ++ l.name ++ aliasing) a .identifier (some .alias) []
    [node before l.text .exportStatement none
      [node (before ++ "export ".toList) ("\x7b ".toList ++ l.name ++ l.rest) .exportClause none
        [node (before ++ l.form.keyword) (l.name ++ l.rest) .exportSpecifier none
          (name (some .name) :: l.alias?.toList.map other)]]]
  | .call => [node before l.text .expressionStatement none []]
  | .other => []

def outlines (l : Line) : List Outline :=
  let name (f : Option Field) := Outline.mk .identifier f l.name []
  match l.form with
  | .constant =>
    [.mk .lexicalDeclaration none l.text
      [.mk .variableDeclarator none (l.name ++ l.rest) [name (some .name)]]]
  | .function => [.mk .functionDeclaration none l.text [name (some .name)]]
  | .namespaceImport =>
    let all := "* as ".toList ++ l.name
    [.mk .importStatement none l.text
      [.mk .importClause none all [.mk .namespaceImport none all [name none]],
      .mk .string (some .source) l.rest []]]
  | .clause =>
    [.mk .exportStatement none l.text
      [.mk .exportClause none ("\x7b ".toList ++ l.name ++ l.rest)
        [.mk .exportSpecifier none (l.name ++ l.rest)
          (name (some .name) :: l.alias?.toList.map fun a => .mk .identifier (some .alias) a [])]]]
  | .call => [.mk .expressionStatement none l.text []]
  | .other => []

def items (l : Line) : List (List Item) :=
  let name := String.ofList l.name
  match l.form with
  | .constant => [[.declares ⟨name, .variable, false, default⟩]]
  | .function => [[.declares ⟨name, .function, false, default⟩]]
  | .namespaceImport => [[.imports ⟨[⟨name, default⟩], default⟩]]
  | .clause => [[.exports ⟨[⟨name, (l.alias?.map String.ofList).getD name⟩], none, default⟩]]
  | .call => [[]]
  | .other => []

theorem rest_of_alias? {l : Line} {a : List Char} (h : l.alias? = some a) :
    l.rest = aliasing ++ a ++ closing := by
  simp only [alias?] at h
  split at h
  case isTrue hr =>
    cases h
    exact hr
  case isFalse => cases h

theorem prefix_of_text {l : Line} {a b c : List Char} (h : l.text = a ++ b ++ c)
    (before after : List Char) : before ++ a ++ b <+: before ++ l.text ++ after :=
  ⟨c ++ after, by simp [h]⟩

theorem outline_nodes (before after : List Char) (l : Line) :
    (l.nodes before).map (Node.outline (before ++ l.text ++ after)) = l.outlines := by
  have hl : before ++ l.text <+: before ++ l.text ++ after := List.prefix_append _ _
  have hn : before ++ l.form.keyword ++ l.name <+: before ++ l.text ++ after :=
    prefix_of_text rfl before after
  have hr : before ++ l.form.keyword ++ (l.name ++ l.rest) <+: before ++ l.text ++ after :=
    prefix_of_text (c := []) (by simp [text]) before after
  obtain ⟨form, name, rest⟩ := l
  cases form with
  | constant =>
    simp only [nodes, outlines, List.map_cons, List.map_nil, outline_node hl, outline_node hn,
      outline_node hr]
  | function =>
    simp only [nodes, outlines, List.map_cons, List.map_nil, outline_node hl, outline_node hn]
  | namespaceImport =>
    have hk : Form.namespaceImport.keyword = "import ".toList ++ "* as ".toList := by decide
    have ha := prefix_of_text (l := ⟨.namespaceImport, name, rest⟩) (a := "import ".toList)
      (b := "* as ".toList ++ name) (c := rest) (by simp [text, hk]) before after
    have hs := prefix_of_text (l := ⟨.namespaceImport, name, rest⟩)
      (a := Form.namespaceImport.keyword ++ name) (b := rest) (c := []) (by simp [text])
      before after
    rw [← List.append_assoc] at hs
    simp only [nodes, outlines, List.map_cons, List.map_nil, outline_node hl, outline_node hn,
      outline_node ha, outline_node hs]
  | clause =>
    have hk : Form.clause.keyword = "export ".toList ++ "\x7b ".toList := by decide
    have hc := prefix_of_text (l := ⟨.clause, name, rest⟩) (a := "export ".toList)
      (b := "\x7b ".toList ++ name ++ rest) (c := []) (by simp [text, hk]) before after
    cases ha : alias? ⟨.clause, name, rest⟩ with
    | none =>
      simp only [nodes, outlines, List.map_cons, List.map_nil, outline_node hl, outline_node hn,
        outline_node hr, outline_node hc, ha, Option.toList_none]
    | some a =>
      have ht : rest = _ := rest_of_alias? ha
      have hs := prefix_of_text (l := ⟨.clause, name, rest⟩)
        (a := Form.clause.keyword ++ name ++ aliasing) (b := a) (c := closing)
        (by simp [text, ht]) before after
      simp only [← List.append_assoc] at hs
      simp only [nodes, outlines, List.map_cons, List.map_nil, outline_node hl, outline_node hn,
        outline_node hr, outline_node hc, outline_node hs, ha, Option.toList_some]
  | call => simp only [nodes, outlines, List.map_cons, List.map_nil, outline_node hl]
  | other => rfl

theorem isName_ofList (field : Option Field) (name : List Char) :
    (Outline.mk .identifier field name []).IsName (String.ofList name) :=
  ⟨rfl, String.toList_ofList.symm⟩

theorem form_outlines (l : Line) : List.Forall₂ Outline.Form l.outlines l.items := by
  obtain ⟨form, name, rest⟩ := l
  cases form with
  | constant => exact .cons (.constant rfl rfl rfl rfl (isName_ofList _ name)) .nil
  | function => exact .cons (.function rfl rfl (isName_ofList _ name)) .nil
  | namespaceImport =>
    exact .cons (.namespaceImport rfl rfl rfl rfl rfl rfl rfl rfl rfl (isName_ofList _ name)) .nil
  | clause =>
    simp only [outlines, items]
    refine .cons (.clause rfl rfl rfl rfl rfl rfl rfl rfl ⟨?_, ?_, ?_, ?_⟩) .nil
    · rfl
    · cases alias? ⟨.clause, name, rest⟩ <;> rfl
    · exact ⟨_, rfl, isName_ofList _ name⟩
    · cases alias? ⟨.clause, name, rest⟩ with
      | none => exact Or.inl ⟨rfl, rfl⟩
      | some a => exact Or.inr ⟨_, rfl, isName_ofList _ a⟩
  | call => exact .cons (.expression rfl rfl) .nil
  | other => exact .nil

theorem isStatement_of_mem_nodes {before : List Char} {l : Line} {n : Node}
    (h : n ∈ l.nodes before) : (n.isNamed && n.kind ≠ .comment) = true := by
  obtain ⟨form, name, rest⟩ := l
  cases form with
  | other => cases h
  | _ =>
    rw [nodes, List.mem_singleton] at h
    rw [h]
    rfl

end Line

def statements (before : List Char) : List (List Char) → List Node
  | [] => []
  | l :: ls => (Line.ofText l).nodes before ++ statements (before ++ l ++ ['\n']) ls

def lines (text : List Char) : List Line := (text.splitOn '\n').map Line.ofText

/-- The syntax tree of a text, if each of its lines is one of the grammar. -/
def parse (text : List Char) : Option Node :=
  if (lines text).all (·.isValid) then
    some (node [] text (.other "program") none (statements [] (text.splitOn '\n')))
  else none

theorem outline_statements (before : List Char) (ls : List (List Char)) :
    (statements before ls).map (Node.outline (before ++ ['\n'].intercalate ls)) =
      (ls.map Line.ofText).flatMap Line.outlines := by
  induction ls generalizing before with
  | nil => rfl
  | cons l ls ih =>
    rw [statements, List.map_append, List.map_cons, List.flatMap_cons]
    cases ls with
    | nil =>
      have hl := Line.outline_nodes before [] (Line.ofText l)
      rw [Line.text_ofText, List.append_nil] at hl
      rw [List.intercalate_singleton, hl]
      rfl
    | cons m ms =>
      have hl := Line.outline_nodes before ('\n' :: ['\n'].intercalate (m :: ms)) (Line.ofText l)
      have hs := ih (before ++ l ++ ['\n'])
      rw [Line.text_ofText] at hl
      rw [List.intercalate_cons_cons, ← hl, ← hs]
      simp

theorem namedOf_statements (before : List Char) (ls : List (List Char)) :
    Node.namedOf (statements before ls) = statements before ls := by
  refine List.filter_eq_self.2 fun n hn => ?_
  induction ls generalizing before with
  | nil => cases hn
  | cons l ls ih =>
    rcases List.mem_append.1 hn with h | h
    · exact Line.isStatement_of_mem_nodes h
    · exact ih _ h

theorem accepts_iff {text : List Char} {os : List Outline} :
    Accepts parse text os ↔
      (∀ l ∈ lines text, l.isValid = true) ∧ (lines text).flatMap Line.outlines = os := by
  have ho := outline_statements [] (text.splitOn '\n')
  rw [List.intercalate_splitOn, List.nil_append] at ho
  rw [← List.all_eq_true]
  unfold Accepts parse
  by_cases hv : (lines text).all (·.isValid) = true
  · rw [if_pos hv]
    have hn : (node [] text (.other "program") none
        (statements [] (text.splitOn '\n'))).namedChildren = statements [] (text.splitOn '\n') :=
      namedOf_statements _ _
    simp only [Option.some.injEq, exists_eq_left', hn, ho]
    exact and_congr_left fun _ => ⟨fun _ => hv, fun _ => rfl⟩
  · simp [hv]

theorem forms_lines (ls : List Line) :
    List.Forall₂ Outline.Form (ls.flatMap Line.outlines) (ls.flatMap Line.items) := by
  induction ls with
  | nil => exact .nil
  | cons l ls ih => exact List.rel_append l.form_outlines ih

theorem lines_append (s t : List Char) : lines (s ++ '\n' :: t) = lines s ++ lines t := by
  rw [lines, List.splitOn_append_cons_self, List.map_append]
  rfl

theorem accepts_append {s t : List Char} {os ps : List Outline} (hs : Accepts parse s os)
    (ht : Accepts parse t ps) : Accepts parse (s ++ '\n' :: t) (os ++ ps) := by
  rw [accepts_iff] at hs ht ⊢
  obtain ⟨hs, rfl⟩ := hs
  obtain ⟨ht, rfl⟩ := ht
  rw [lines_append, List.flatMap_append]
  exact ⟨fun l hl => (List.mem_append.1 hl).elim (hs l) (ht l), rfl⟩

/-! The text that starts a session, line by line. -/

/-- Lines whose statements have these items. The second name of a line spells it out. -/
inductive Says : List (List Char) → List (List Item) → Prop
  | nil : Says [] []
  | skip {l c : List Char} {ls : List (List Char)} {is : List (List Item)} (hl : l = c)
      (hc : ('\n' ∉ c ∧ (Line.ofText c).isValid = true) ∧ (Line.ofText c).items = [])
      (h : Says ls is) : Says (l :: ls) is
  | statement {l c : List Char} {ls : List (List Char)} {i : List Item} {is : List (List Item)}
      (hl : l = c) (hc : ('\n' ∉ c ∧ (Line.ofText c).isValid = true) ∧ (Line.ofText c).items = [i])
      (h : Says ls is) : Says (l :: ls) (i :: is)

namespace Says

variable {ls ms : List (List Char)} {is js : List (List Item)}

theorem append (h : Says ls is) (h' : Says ms js) : Says (ls ++ ms) (is ++ js) := by
  induction h with
  | nil => exact h'
  | skip hl hc _ ih => exact .skip hl hc ih
  | statement hl hc _ ih => exact .statement hl hc ih

theorem lines_eq (h : Says ls is) :
    lines (ls.flatMap (· ++ ['\n'])) = ls.map Line.ofText ++ [Line.ofText []] := by
  induction h with
  | nil => rfl
  | skip hl hc _ ih | statement hl hc _ ih =>
    rw [List.flatMap_cons, List.append_assoc, List.singleton_append, lines_append, ih, lines, hl,
      List.splitOn_eq_singleton hc.1.1]
    rfl

theorem isValid (h : Says ls is) : ∀ l ∈ ls.map Line.ofText, l.isValid = true := by
  induction h with
  | nil => exact nofun
  | skip hl hc _ ih | statement hl hc _ ih =>
    rw [List.map_cons, List.forall_mem_cons, hl]
    exact ⟨hc.1.2, ih⟩

theorem items_eq (h : Says ls is) : (ls.map Line.ofText).flatMap Line.items = is := by
  induction h with
  | nil => rfl
  | skip hl hc _ ih | statement hl hc _ ih =>
    rw [List.map_cons, List.flatMap_cons, ih, hl, hc.2]
    rfl

end Says

def symbolsLine (symbols : SymbolSet) : List Char :=
  "const __ts_repl__allSymbols: string[] = ".toList ++ (Piece.literals symbols.names).text ++
    ";".toList

def historyLine : List Char :=
  "\tconst historyFile = process.env[".toList ++ Json.Quoted.encode "TS_REPL_HISTFILE".toList ++
    "] || __ts_repl__path.join(__ts_repl__os.homedir(), ".toList ++
    Json.Quoted.encode ".ts_repl_history".toList ++ ");".toList

def promptLine : List Char :=
  "\t\tprompt: ".toList ++ Json.Quoted.encode "> ".toList ++ ",".toList

def sessionLines (symbols : SymbolSet) : List (List Char) :=
  (Bootstrap.imports false).map String.toList ++
  (["", "// Capture all top-level symbols"].map String.toList ++ [symbolsLine symbols]) ++
  ("" :: Bootstrap.helpers).map String.toList ++
  ([Bootstrap.sessionHead.toList, historyLine] ++ Bootstrap.serverHead.map String.toList ++
    [promptLine] ++ Bootstrap.serverTail.tail.map String.toList) ++
  (Bootstrap.sessionTail ++ [endMarker]).map String.toList

theorem bootstrap_eq_flatMap (symbols : SymbolSet) :
    bootstrap symbols = (sessionLines symbols).flatMap (· ++ ['\n']) := by
  have hp : (pieces [] symbols .standard).drop 3 =
      [.lines (Bootstrap.imports false), .lines ["", "// Capture all top-level symbols"],
        .fixed "const __ts_repl__allSymbols: string[] = ", .literals symbols.names, .lines [";"],
        .lines [""], .lines Bootstrap.helpers, .lines [Bootstrap.sessionHead],
        .fixed "\tconst historyFile = process.env[", .literal "TS_REPL_HISTFILE",
        .fixed "] || __ts_repl__path.join(__ts_repl__os.homedir(), ", .literal ".ts_repl_history",
        .lines [");"], .lines [], .lines Bootstrap.serverHead, .fixed "\t\tprompt: ", .literal "> ",
        .lines ("," :: Bootstrap.serverTail.tail), .lines [], .lines Bootstrap.sessionTail,
        .lines [endMarker]] := rfl
  rw [bootstrap, hp]
  unfold sessionLines symbolsLine historyLine promptLine
  simp only [-String.reduceToList, Piece.text, List.flatMap_append, List.flatMap_map,
    List.flatMap_cons, List.flatMap_nil, List.map_cons, List.map_nil, List.append_assoc,
    List.nil_append, List.append_nil, List.cons_append]

/-- A list of names that stands in a line leaves it one line. -/
theorem newline_not_mem_literals (names : List String) :
    '\n' ∉ (Piece.literals names).text := by
  have h (first : Bool) : '\n' ∉ Piece.literalsText names first := by
    induction names generalizing first with
    | nil => simp [Piece.literalsText]
    | cons v vs ih =>
      cases first <;> simp [Piece.literalsText, Json.Quoted.newline_not_mem_encode, ih]
  simp [Piece.text, h]

theorem says_imports :
    Says ((Bootstrap.imports false).map String.toList) (bootstrapItems.take 4) := by
  simp only [-String.reduceToList, Bootstrap.imports, Bool.false_eq_true, if_false,
    List.append_nil, List.map_cons, List.map_nil]
  repeat' first
    | exact .nil
    | refine .statement String.toList_ofList (by decide) ?_

theorem says_symbolsLine (symbols : SymbolSet) :
    Says (["", "// Capture all top-level symbols"].map String.toList ++ [symbolsLine symbols])
      [[.declares ⟨internalName "allSymbols", .variable, false, default⟩]] := by
  have hl := newline_not_mem_literals symbols.names
  refine .skip String.toList_ofList (by decide) (.skip String.toList_ofList (by decide) ?_)
  refine .statement rfl ⟨⟨?_, rfl⟩, rfl⟩ .nil
  unfold symbolsLine
  simp only [List.mem_append, not_or]
  exact ⟨⟨by decide, hl⟩, by decide⟩

theorem says_helpers :
    Says (("" :: Bootstrap.helpers).map String.toList) ((bootstrapItems.drop 5).take 4) := by
  simp only [-String.reduceToList, Bootstrap.helpers, List.map_cons, List.map_nil]
  repeat' first
    | exact .nil
    | refine .skip String.toList_ofList (by decide) ?_
    | refine .statement String.toList_ofList (by decide) ?_

set_option maxRecDepth 2000 in
theorem says_session :
    Says ([Bootstrap.sessionHead.toList, historyLine] ++ Bootstrap.serverHead.map String.toList ++
      [promptLine] ++ Bootstrap.serverTail.tail.map String.toList)
      ((bootstrapItems.drop 9).take 1) := by
  have hh : Says [Bootstrap.sessionHead.toList, historyLine] ((bootstrapItems.drop 9).take 1) :=
    .statement rfl (by decide) (.skip rfl (by decide +kernel) .nil)
  have hs : Says (Bootstrap.serverHead.map String.toList) [] := by
    simp only [-String.reduceToList, Bootstrap.serverHead, List.map_cons, List.map_nil]
    repeat' first
      | exact .nil
      | refine .skip String.toList_ofList (by decide) ?_
  have hp : Says [promptLine] [] := .skip rfl (by decide) .nil
  have ht : Says (Bootstrap.serverTail.tail.map String.toList) [] := by
    simp only [-String.reduceToList, Bootstrap.serverTail, List.tail_cons, List.map_cons,
      List.map_nil]
    repeat' first
      | exact .nil
      | refine .skip String.toList_ofList (by decide) ?_
  exact ((hh.append hs).append hp).append ht

theorem says_sessionTail :
    Says ((Bootstrap.sessionTail ++ [endMarker]).map String.toList) (bootstrapItems.drop 10) := by
  simp only [-String.reduceToList, Bootstrap.sessionTail, endMarker, List.cons_append,
    List.nil_append, List.map_cons, List.map_nil]
  repeat' first
    | exact .nil
    | refine .skip String.toList_ofList (by decide) ?_
    | refine .statement String.toList_ofList (by decide) ?_

theorem says_sessionLines (symbols : SymbolSet) : Says (sessionLines symbols) bootstrapItems :=
  (((says_imports.append (says_symbolsLine symbols)).append says_helpers).append
    says_session).append says_sessionTail

/-! The names of a module are words, and a word can stand in an export clause. -/

theorem isWord_of_mem_names {text : List Char} {name : String}
    (h : name ∈ Item.names ((lines text).flatMap Line.items).flatten) :
    ∀ c ∈ name.toList, Line.isWord c = true := by
  simp only [Item.names, List.mem_map, List.mem_flatMap, List.mem_flatten, lines] at h
  obtain ⟨d, ⟨i, ⟨is, ⟨_, ⟨cs, -, rfl⟩, his⟩, hi⟩, hd⟩, rfl⟩ := h
  have hw : ∀ c ∈ (Line.ofText cs).name, Line.isWord c = true := by
    unfold Line.ofText
    split <;> exact List.all_eq_true.1 List.all_takeWhile
  have hn : d.name = String.ofList (Line.ofText cs).name := by
    generalize Line.ofText cs = l at his
    obtain ⟨form, name, rest⟩ := l
    cases form <;> simp [Line.items] at his <;> subst his <;> simp_all [Item.bindings]
  rwa [hn, String.toList_ofList]

def lineOf (st : ExportStatement) : Line :=
  ⟨.clause, st.name.toList,
    match st with
    | .plain _ => closing
    | .hidden n => aliasing ++ (internalName n).toList ++ closing⟩

theorem name_lineOf (st : ExportStatement) : (lineOf st).name = st.name.toList := rfl

theorem text_lineOf (st : ExportStatement) : (lineOf st).text = st.text.toList := by
  have hk : Form.clause.keyword = "export \x7b ".toList := by decide
  have hc : closing = " \x7d;".toList := by decide
  have hr : aliasing = " as ".toList := by decide
  cases st with
  | plain n => simp only [lineOf, Line.text, ExportStatement.text, ExportStatement.name,
      String.toList_append, hk, hc]
  | hidden n => simp only [lineOf, Line.text, ExportStatement.text, ExportStatement.name,
      String.toList_append, hk, hc, hr, List.append_assoc]

theorem takeWhile_word {w : List Char} (rest : List Char) (h : ∀ c ∈ w, Line.isWord c = true) :
    (w ++ ' ' :: rest).takeWhile Line.isWord = w := by
  rw [List.takeWhile_append_of_pos h, List.takeWhile_cons_of_neg (by decide), List.append_nil]

theorem dropWhile_word {w : List Char} (rest : List Char) (h : ∀ c ∈ w, Line.isWord c = true) :
    (w ++ ' ' :: rest).dropWhile Line.isWord = ' ' :: rest := by
  rw [List.dropWhile_append_of_pos h, List.dropWhile_cons_of_neg (by decide)]

theorem newline_not_mem_word {w : List Char} (h : ∀ c ∈ w, Line.isWord c = true) : '\n' ∉ w := by
  intro hn
  have hw := h _ hn
  revert hw
  decide

theorem isWord_internalName {name : String} (h : ∀ c ∈ name.toList, Line.isWord c = true) :
    ∀ c ∈ (internalName name).toList, Line.isWord c = true := by
  have hp : internalPrefix.toList.all Line.isWord = true := by decide
  intro c hc
  rw [internalName, String.toList_append, List.mem_append] at hc
  exact hc.elim (List.all_eq_true.1 hp c) (h c)

theorem alias?_lineOf_hidden {n : String} (h : ∀ c ∈ n.toList, Line.isWord c = true) :
    (lineOf (.hidden n)).alias? = some (internalName n).toList := by
  have hd : (lineOf (.hidden n)).rest.drop aliasing.length = (internalName n).toList ++ closing :=
    rfl
  have ht := takeWhile_word ['\x7d', ';'] (isWord_internalName h)
  rw [Line.alias?, hd]
  simp only [closing, ht]
  exact if_pos rfl

section

variable {st : ExportStatement} (h : ∀ c ∈ st.name.toList, Line.isWord c = true)

include h

theorem ofText_text_lineOf : Line.ofText (lineOf st).text = lineOf st := by
  obtain ⟨rest, hr⟩ : ∃ rest, (lineOf st).rest = ' ' :: rest := by
    cases st <;> exact ⟨_, rfl⟩
  have hf : [Form.constant, .function, .namespaceImport, .clause].find?
      (·.keyword.isPrefixOf (lineOf st).text) = some .clause := rfl
  have hd : (lineOf st).text.drop Form.clause.keyword.length = st.name.toList ++ ' ' :: rest := by
    rw [← hr]
    rfl
  have hl : lineOf st = ⟨.clause, st.name.toList, ' ' :: rest⟩ := by
    rw [← hr]
    rfl
  rw [Line.ofText, hf]
  simp only [hd, takeWhile_word rest h, dropWhile_word rest h]
  exact hl.symm

theorem isValid_lineOf (hm : st.name ∉ specifierModifiers) : (lineOf st).isValid = true := by
  have hn : String.ofList (lineOf st).name ∉ specifierModifiers := by
    rwa [name_lineOf, String.ofList_toList]
  cases st with
  | plain n => simp [Line.isValid, hn, show (lineOf (.plain n)).rest = closing from rfl]
  | hidden n => simp [Line.isValid, hn, alias?_lineOf_hidden (n := n) h]

theorem items_lineOf : (lineOf st).items = [[st.clause default]] := by
  have hn : String.ofList (lineOf st).name = st.name := by
    rw [name_lineOf, String.ofList_toList]
  cases st with
  | plain n =>
    have hi : (lineOf (.plain n)).items = [[.exports ⟨[⟨_, _⟩], none, default⟩]] := rfl
    rw [hi, hn]
    rfl
  | hidden n =>
    have hi : (lineOf (.hidden n)).items =
        [[.exports ⟨[⟨_, (Option.map _ _).getD _⟩], none, default⟩]] := rfl
    rw [hi, alias?_lineOf_hidden (n := n) h, hn, Option.map_some, Option.getD_some,
      String.ofList_toList]
    rfl

theorem lines_statement : lines st.text.toList = [lineOf st] := by
  have hn : '\n' ∉ (lineOf st).text := by
    have hr : '\n' ∉ (lineOf st).rest := by
      cases st with
      | plain n => exact (by decide : '\n' ∉ closing)
      | hidden n =>
        have hi := newline_not_mem_word (isWord_internalName h)
        have ha : '\n' ∉ aliasing := by decide
        have hc : '\n' ∉ closing := by decide
        simp only [lineOf, List.mem_append, not_or]
        exact ⟨⟨ha, hi⟩, hc⟩
    have hk : '\n' ∉ Form.clause.keyword := by decide
    simp only [Line.text, List.mem_append, not_or]
    exact ⟨⟨hk, newline_not_mem_word h⟩, hr⟩
  rw [lines, ← text_lineOf, List.splitOn_eq_singleton hn, List.map_singleton, ofText_text_lineOf h]

theorem exists_form_statement (hm : st.name ∉ specifierModifiers) :
    ∃ o, Accepts parse st.text.toList [o] ∧ o.Form [st.clause default] := by
  have hf := (lineOf st).form_outlines
  rw [items_lineOf h, List.forall₂_cons_right_iff] at hf
  obtain ⟨o, os, hf, hn, ho⟩ := hf
  rw [List.forall₂_nil_right_iff] at hn
  refine ⟨o, accepts_iff.2 ?_, hf⟩
  rw [lines_statement h, List.flatMap_singleton, ho, hn]
  exact ⟨by simpa using isValid_lineOf h hm, rfl⟩

end

theorem exists_not_isValid {st : ExportStatement} (h : st.name ∈ specifierModifiers) :
    ∃ l ∈ lines st.text.toList, l.isValid = false := by
  have hw : ∀ c ∈ st.name.toList, Line.isWord c = true := by
    have hs : ∀ n ∈ specifierModifiers, n.toList.all Line.isWord = true := by decide
    exact List.all_eq_true.1 (hs _ h)
  refine ⟨lineOf st, by rw [lines_statement hw, List.mem_singleton], ?_⟩
  simp [Line.isValid, lineOf, h]

theorem lines_follow (s : List Char) (parts : List (List Char)) :
    lines (follow s parts) = lines s ++ parts.flatMap lines := by
  induction parts generalizing s with
  | nil => simp [follow]
  | cons t ts ih =>
    have h := ih (s ++ '\n' :: t)
    rw [lines_append] at h
    simpa [follow] using h

theorem isWord_of_mem_bindings {source name : String} {p : Program}
    (hp : Program.parseBy parse source = .ok p) (h : name ∈ p.bindings.map (·.name)) :
    ∀ c ∈ name.toList, Line.isWord c = true := by
  have hn : p.bindings.map (·.name) = Item.names (p.items.map Item.unplaced) := by
    rw [Item.names_unplaced]
    rfl
  obtain ⟨os, ha, -⟩ := reads_of_program hp
  have hr : Reads parse source.toList ((lines source.toList).flatMap Line.items).flatten := by
    rw [accepts_iff] at ha
    exact ⟨_, accepts_iff.2 ⟨ha.1, rfl⟩, .ofForms (forms_lines _)⟩
  obtain ⟨q, hq, hi⟩ := hr.exists_program
  rw [hp, Except.ok.injEq] at hq
  rw [hn, hq, hi] at h
  exact isWord_of_mem_names h

/-- The grammar has what is relied on of the grammar of modules. -/
theorem moduleGrammar : ModuleGrammar parse where
  blank := accepts_iff.2 (by decide)
  comment c hc := by
    have h : ∀ c ∈ comments, (∀ l ∈ lines c.toList, l.isValid = true) ∧
        (lines c.toList).flatMap Line.items = [] := by decide
    obtain ⟨hv, hi⟩ := h c hc
    have hf := forms_lines (lines c.toList)
    rw [hi, List.forall₂_nil_right_iff] at hf
    exact accepts_iff.2 ⟨hv, hf⟩
  append hs _ ht := ⟨_, fun _ h => h, accepts_append hs ht⟩
  clause hp hst hm := exists_form_statement (isWord_of_mem_bindings hp hst) hm
  modifier hs hst _ ha := by
    rw [accepts_iff, lines_follow, lines_append] at ha
    obtain ⟨l, hl, hv⟩ := exists_not_isValid hst
    have hv' := ha.1 l (by simp [hl])
    rw [hv] at hv'
    cases hv'
  session hs _ symbols := by
    have h := says_sessionLines symbols
    have hi : (lines (bootstrap symbols)).flatMap Line.items = bootstrapItems := by
      rw [bootstrap_eq_flatMap, h.lines_eq, List.flatMap_append, h.items_eq]
      rfl
    refine ⟨_, (lines (bootstrap symbols)).flatMap Line.outlines, fun _ h => h, ?_,
      accepts_append hs (accepts_iff.2 ⟨?_, rfl⟩)⟩
    · rw [← hi]
      exact forms_lines _
    · rw [bootstrap_eq_flatMap, h.lines_eq]
      intro l hl
      rcases List.mem_append.1 hl with hl | hl
      · exact h.isValid l hl
      · rw [List.mem_singleton.1 hl]
        rfl

end TypeScriptRepl.Harness.LineGrammar
