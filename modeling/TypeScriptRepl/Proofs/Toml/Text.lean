import TypeScriptRepl.Proofs.Toml.Grammar

/-! Blanks, line ends, comments and strings are read as the grammar has them. -/
namespace TypeScriptRepl.Toml
open Reader

/-! ### Characters -/

theorem isBlank_iff {c : Char} : isBlank c ↔ Spec.IsBlank c := by
  simp [isBlank, Spec.IsBlank]

theorem isPlain_iff {c : Char} : isPlain c ↔ Spec.IsPlain c := by
  have hle : ' ' ≤ c ↔ 0x20 ≤ c.toNat := Iff.rfl
  have hne : c = '\x7f' ↔ c.toNat = 0x7f := Char.toNat_inj.symm
  simp only [isPlain, Spec.IsPlain, Bool.or_eq_true, Bool.and_eq_true, decide_eq_true_eq, ne_eq, hne,
    hle]

theorem isDigit_iff {c : Char} : isDigit c ↔ Spec.IsDigit c := by
  simp [isDigit, Spec.IsDigit]

theorem isHexDigit_iff {c : Char} : isHexDigit c ↔ Spec.IsHexDigit c := by
  simp [isHexDigit, Spec.IsHexDigit, isDigit_iff, or_assoc]

theorem isUnescaped_iff {c : Char} :
    isUnescaped c ↔ Spec.IsPlain c ∧ c ≠ '"' ∧ c ≠ '\\' := by
  simp [isUnescaped, isPlain_iff, and_assoc]

theorem isLiteral_iff {c : Char} : isLiteral c ↔ Spec.IsLiteral c := by
  simp [isLiteral, Spec.IsLiteral, isPlain_iff]

/-! ### Blanks, line ends, comments -/

theorem reads_blanks : Reads blanks fun cs _ rest => Spec.Blanks cs rest := by
  refine (reads_takeWhile isBlank).bind fun w => reads_pure ?_
  rintro rest cs ⟨hcs, hw⟩
  exact ⟨w, hcs, fun c hc => isBlank_iff.1 (hw c hc)⟩

theorem reads_newline : Reads newline fun cs _ rest => Spec.Newline cs rest :=
  ((reads_word "\n").mono fun _ _ _ h => Or.inl h).orElse
    ((reads_word "\r\n").mono fun _ _ _ h => Or.inr h)

theorem reads_comment : Reads comment fun cs _ rest => Spec.Comment cs rest := by
  refine (reads_word "#").bind fun _ => (reads_takeWhile isPlain).bind fun w => reads_pure ?_
  rintro rest mid ⟨hmid, hw⟩ cs hcs
  rw [hmid] at hcs
  exact ⟨w, hcs, fun c hc => isPlain_iff.1 (hw c hc)⟩

/-- What the rest of a line is before it ends, or before the text does. -/
theorem reads_lineTrailing : Reads lineTrailing fun cs _ rest =>
    ∃ mid, Spec.Trailing cs mid ∧ (Spec.Newline mid rest ∨ (mid = [] ∧ rest = [])) := by
  have hcomment : Reads (attempt comment) fun cs _ rest => cs = rest ∨ Spec.Comment cs rest :=
    reads_comment.attempt (fun _ _ _ h => Or.inr h) fun _ => Or.inl rfl
  have hend : Reads (orElse newline atEnd) fun cs _ rest =>
      Spec.Newline cs rest ∨ (cs = [] ∧ rest = []) :=
    (reads_newline.mono fun _ _ _ h => Or.inl h).orElse (reads_atEnd.mono fun _ _ _ h => Or.inr h)
  refine reads_blanks.bind fun _ => hcomment.bind fun _ => hend.mono ?_
  intro c _ rest hc b hb cs hcs
  exact ⟨c, ⟨b, hcs, hb⟩, hc⟩

theorem Spec.Gap.trans {cs mid rest : List Char} (h : Spec.Gap cs mid) (h' : Spec.Gap mid rest) :
    Spec.Gap cs rest := by
  induction h with
  | done => exact h'
  | blank hc _ ih => exact .blank hc (ih h')
  | line hc hn _ ih => exact .line hc hn (ih h')

theorem Spec.Blanks.gap {cs rest : List Char} (h : Spec.Blanks cs rest) : Spec.Gap cs rest := by
  obtain ⟨w, rfl, hw⟩ := h
  induction w with
  | nil => exact .done _
  | cons c w ih =>
    rw [List.forall_mem_cons] at hw
    exact .blank hw.1 (ih hw.2)

/-- The end of a line in a gap, after its blanks. -/
theorem reads_gapLine (start : List Char) : Reads (match start.head? with
    | some '#' => commit do comment; newline
    | some '\n' | some '\r' => commit newline
    | _ => fail) fun cs _ rest => Spec.Gap cs rest := by
  have hcomment : Reads (commit do comment; newline) fun cs _ rest => Spec.Gap cs rest := by
    refine (reads_comment.bind fun _ => reads_newline.mono ?_).commit
    intro mid _ rest hn cs hc
    exact .line (Or.inr hc) hn (.done rest)
  have hnewline : Reads (commit newline) fun cs _ rest => Spec.Gap cs rest :=
    (reads_newline.mono fun cs _ rest hn => .line (Or.inl rfl) hn (.done rest)).commit
  split
  · exact hcomment
  · exact hnewline
  · exact hnewline
  · exact reads_fail

theorem reads_gap : Reads gap fun cs _ rest => Spec.Gap cs rest := by
  have hline : Reads (do
      blanks
      match (← Reader.rest).head? with
      | some '#' => commit do comment; newline
      | some '\n' | some '\r' => commit newline
      | _ => fail) fun cs _ rest => Spec.Gap cs rest := by
    refine reads_blanks.bind fun _ => reads_rest.bind fun cs => (reads_gapLine cs).mono ?_
    rintro mid _ rest hgap cs ⟨-, rfl⟩ start hstart
    exact hstart.gap.trans hgap
  refine hline.many.bind fun us => reads_blanks.mono ?_
  intro mid _ rest hblanks cs hmany
  refine Spec.Gap.trans ?_ hblanks.gap
  induction hmany with
  | nil cs => exact .done cs
  | cons head _ ih => exact head.trans (ih hblanks)

/-! ### Strings -/

theorem Spec.number_eq_foldl (base : Nat) (ds : List Char) :
    Spec.number base ds = ds.foldl (fun n d => n * base + Spec.digit d) 0 := by
  rw [Spec.number, Nat.ofDigits_eq_foldr, List.foldr_map, List.foldl_eq_foldr_reverse]
  congr 1
  funext d n
  rw [Nat.cast_id, Nat.add_comm, Nat.mul_comm]

theorem digitValue_eq {c : Char} (h : Spec.IsHexDigit c) : digitValue c = Spec.digit c := by
  have h0 : '0'.toNat = 48 := rfl
  have h9 : '9'.toNat = 57 := rfl
  have ha : 'a'.toNat = 97 := rfl
  have hf : 'f'.toNat = 102 := rfl
  have hA : 'A'.toNat = 65 := rfl
  have hF : 'F'.toNat = 70 := rfl
  have hle {a b : Char} : a ≤ b ↔ a.toNat ≤ b.toNat := Iff.rfl
  simp only [Spec.IsHexDigit, Spec.IsDigit, hle] at h
  simp only [digitValue, isDigit, Spec.digit, Bool.and_eq_true, decide_eq_true_eq, hle]
  split_ifs <;> omega

theorem foldl_digitValue {base : Nat} {ds : List Char} (h : ∀ d ∈ ds, Spec.IsHexDigit d) :
    ds.foldl (fun n d => n * base + digitValue d) 0 = Spec.number base ds := by
  rw [Spec.number_eq_foldl]
  apply List.foldl_ext
  intro n d hd
  rw [digitValue_eq (h d hd)]

theorem hexOf_eq {ds : List Char} (h : ∀ d ∈ ds, Spec.IsHexDigit d) :
    hexOf ds = Spec.number 16 ds := foldl_digitValue h

theorem reads_codePoint (digits : Nat) : Reads (codePoint digits) fun cs c rest =>
    ∃ ds, cs = ds ++ rest ∧ ds.length = digits ∧ (∀ d ∈ ds, Spec.IsHexDigit d) ∧
      c.toNat = Spec.number 16 ds := by
  refine (reads_exactly digits isHexDigit).check ?_
  rintro cs ds rest c ⟨hcs, hlength, hds⟩ hc
  have hhex : ∀ d ∈ ds, Spec.IsHexDigit d := fun d hd => isHexDigit_iff.1 (hds d hd)
  refine ⟨ds, hcs, hlength, hhex, ?_⟩
  rw [← hexOf_eq hhex]
  simp only at hc
  split at hc
  · rename_i hvalid
    cases hc
    rw [Char.toNat_ofNat, if_pos]
    simp only [Nat.isValidChar]
    omega
  · cases hc

theorem reads_escape : Reads escape Spec.Escape := by
  have hletter {l c : Char} (h : Spec.Letter l c) : Reads (pure c : Reader Char) fun rest c' rest' =>
      ∀ mid, mid = l :: rest → ∀ cs, cs = '\\' :: mid → Spec.Escape cs c' rest' := by
    apply reads_pure
    rintro rest _ rfl _ rfl
    exact .letter h
  have hnumber {lead : Char} {count : Nat} {label : String}
      (hlead : (lead, count) ∈ [('u', 4), ('U', 8)]) :
      Reads ((commit (codePoint count)).labelled label) fun rest c rest' =>
        ∀ mid, mid = lead :: rest → ∀ cs, cs = '\\' :: mid → Spec.Escape cs c rest' := by
    refine ((reads_codePoint count).commit.labelled label).mono ?_
    rintro _ c rest ⟨ds, rfl, hlength, hds, hc⟩ _ rfl _ rfl
    exact .number hlead hlength hds hc
  refine (reads_word "\\").bind fun _ => reads_any.bind fun l => ?_
  split
  · exact hletter .backspace
  · exact hletter .formFeed
  · exact hletter .lineFeed
  · exact hletter .carriageReturn
  · exact hletter .tab
  · exact hletter .backslash
  · exact hletter .quote
  · exact hnumber (by simp)
  · exact hnumber (by simp)
  · exact ((reads_fail.commit).labelled _).expecting _

theorem reads_unescaped : Reads (takeWhile₁ isUnescaped) fun cs w rest =>
    w ≠ [] ∧ Many Spec.BasicChar cs w rest := by
  refine (reads_takeWhile₁ isUnescaped).mono ?_
  rintro _ w rest ⟨rfl, hne, hw⟩
  refine ⟨hne, Many.of_chars fun c hc rest => ?_⟩
  obtain ⟨hp, hq, hb⟩ := isUnescaped_iff.1 (hw c hc)
  exact .plain hp hq hb

theorem reads_basic : Reads basic Spec.BasicString := by
  have hpart : Reads (orElse (takeWhile₁ isUnescaped) (do return [← escape])) (Many Spec.BasicChar) :=
    (reads_unescaped.mono fun _ _ _ h => h.2).orElse (reads_escape.bind fun c => reads_pure
      fun rest _ hc => .cons (.escape hc) (.nil rest))
  refine (reads_word "\"").bind fun _ => hpart.many.bind fun parts =>
    ((reads_word "\"").commit.labelled _).bind fun _ => reads_pure ?_
  rintro rest _ rfl mid hparts _ rfl
  exact ⟨mid, rfl, hparts.flatten⟩

theorem reads_literal : Reads literal Spec.LiteralString := by
  refine Reads.labelled ?_ _
  refine (reads_word "'").bind fun _ => (reads_takeWhile isLiteral).bind fun w =>
    (reads_word "'").commit.bind fun _ => reads_pure ?_
  rintro rest _ rfl _ ⟨rfl, hw⟩ _ rfl
  exact ⟨rfl, fun c hc => isLiteral_iff.1 (hw c hc)⟩

theorem reads_lineEnd : Reads lineEnd fun cs w rest => w = ['\n'] ∧ Spec.Newline cs rest :=
  reads_newline.bind fun _ => reads_pure fun _ _ hn => ⟨rfl, hn⟩

theorem Spec.Space.trans {cs mid rest : List Char} (h : Spec.Space cs mid)
    (h' : Spec.Space mid rest) : Spec.Space cs rest := by
  induction h with
  | done => exact h'
  | blank hc _ ih => exact .blank hc (ih h')
  | newline hn _ ih => exact .newline hn (ih h')

theorem Spec.space_of_blanks {w rest : List Char} (hw : ∀ c ∈ w, Spec.IsBlank c) :
    Spec.Space (w ++ rest) rest := by
  induction w with
  | nil => exact .done rest
  | cons c w ih =>
    rw [List.forall_mem_cons] at hw
    exact .blank hw.1 (ih hw.2)

theorem reads_continuation : Reads continuation fun cs w rest =>
    w = [] ∧ Spec.BasicContent cs [] rest := by
  have hblanks : Reads (do let _ ← takeWhile₁ isBlank) fun cs _ rest => Spec.Space cs rest := by
    refine (reads_takeWhile₁ isBlank).bind fun w => reads_pure ?_
    rintro rest _ ⟨rfl, -, hw⟩
    exact Spec.space_of_blanks fun c hc => isBlank_iff.1 (hw c hc)
  have hnewline : Reads newline fun cs _ rest => Spec.Space cs rest :=
    reads_newline.mono fun _ _ rest hn => .newline hn (.done rest)
  refine (reads_word "\\").bind fun _ => reads_blanks.bind fun _ => reads_newline.bind fun _ =>
    (hnewline.orElse hblanks).many.bind fun us => reads_pure ?_
  rintro rest next hmany mid hn a hb _ rfl
  have hspace : Spec.Space next rest := by
    clear hn
    induction hmany with
    | nil cs => exact .done cs
    | cons head _ ih => exact head.trans ih
  exact ⟨rfl, .continuation hb hn hspace⟩

def Spec.Parts₁ (Content : List Char → List Char → List Char → Prop) (cs s rest : List Char) : Prop :=
  ∃ part more mid, s = part ++ more ∧ Content cs part mid ∧ Spec.Parts Content mid more rest

section Multiline

variable {Content : List Char → List Char → List Char → Prop} {cs mid rest s t : List Char}

theorem Spec.Parts.nil : Spec.Parts Content cs [] cs := ⟨[], .nil cs, rfl⟩

theorem Spec.Parts.append (h : Spec.Parts Content cs s mid) (h' : Spec.Parts Content mid t rest) :
    Spec.Parts Content cs (s ++ t) rest := by
  obtain ⟨parts, hparts, rfl⟩ := h
  obtain ⟨parts', hparts', rfl⟩ := h'
  exact ⟨parts ++ parts', hparts.append hparts', List.flatten_append.symm⟩

theorem Spec.Parts₁.parts (h : Spec.Parts₁ Content cs s rest) : Spec.Parts Content cs s rest := by
  obtain ⟨part, more, mid, rfl, hpart, parts, hparts, rfl⟩ := h
  exact ⟨part :: parts, .cons hpart hparts, rfl⟩

theorem Spec.parts₁_of_content (h : Content cs s rest) : Spec.Parts₁ Content cs s rest :=
  ⟨s, [], rest, (List.append_nil s).symm, h, .nil⟩

theorem Spec.parts_of_many {ws : List (List Char)} (h : Many (Spec.Parts₁ Content) cs ws rest) :
    Spec.Parts Content cs ws.flatten rest := by
  induction h with
  | nil cs => exact .nil
  | cons head _ ih => exact head.parts.append ih

theorem Spec.parts₁_of_many {w : List Char} (hne : w ≠ [])
    (h : Many (fun cs c rest => Content cs [c] rest) cs w rest) : Spec.Parts₁ Content cs w rest := by
  have hparts {cs w rest} (h : Many (fun cs c rest => Content cs [c] rest) cs w rest) :
      Spec.Parts Content cs w rest := by
    induction h with
    | nil cs => exact .nil
    | cons head _ ih => exact (Spec.parts₁_of_content head).parts.append ih
  cases h with
  | nil => exact absurd rfl hne
  | cons head tail => exact ⟨[_], _, _, rfl, head, hparts tail⟩

theorem reads_innerQuotes (quote : Char) (after : Reader Unit) :
    Reads (innerQuotes (String.singleton quote) after) (Spec.InnerQuotes quote) := by
  have hquotes {text : String} (h : text.toList = [quote] ∨ text.toList = [quote, quote]) :
      Reads (do word text; ahead after; return text.toList) (Spec.InnerQuotes quote) := by
    refine (reads_word text).bind fun _ => (reads_ahead after).bind fun _ => reads_pure ?_
    rintro rest _ rfl cs hcs
    exact ⟨hcs, h⟩
  exact (hquotes (Or.inr (by simp))).orElse (hquotes (Or.inl (by simp)))

theorem reads_multiline {quote : Char} {content : Reader (List Char)}
    (h : Reads content (Spec.Parts₁ Content)) :
    Reads (multiline quote content) (Spec.MultilineString quote Content) := by
  have hdelimiter : (String.singleton quote ++ String.singleton quote ++
      String.singleton quote).toList = [quote, quote, quote] := by simp
  have hword : Reads (word (String.singleton quote ++ String.singleton quote ++
      String.singleton quote)) fun cs _ rest => cs = quote :: quote :: quote :: rest := by
    have hw := reads_word (String.singleton quote ++ String.singleton quote ++ String.singleton quote)
    rw [hdelimiter] at hw
    exact hw
  have hnewline : Reads (attempt newline) fun cs _ rest => cs = rest ∨ Spec.Newline cs rest :=
    reads_newline.attempt (fun _ _ _ hn => Or.inr hn) fun _ => Or.inl rfl
  have hgroup : Reads (do
      let quotes ← innerQuotes (String.singleton quote) (notQuote quote)
      let c ← content
      return quotes ++ c ++ (← many content).flatten) fun cs group rest =>
        ∃ q part more mid mid', group = q ++ part ++ more ∧ Spec.InnerQuotes quote cs q mid ∧
          Content mid part mid' ∧ Spec.Parts Content mid' more rest := by
    refine (reads_innerQuotes quote _).bind fun q => h.bind fun w => h.many.bind fun ws => reads_pure ?_
    rintro rest b hws a ⟨part, more, mid, rfl, hpart, hmore⟩ cs hq
    refine ⟨q, part, more ++ ws.flatten, a, mid, ?_, hq, hpart, hmore.append (Spec.parts_of_many hws)⟩
    simp only [List.append_assoc]
  have hlast : Reads (attempt (innerQuotes (String.singleton quote) (word (String.singleton quote ++
      String.singleton quote ++ String.singleton quote)))) fun cs last rest =>
        (last.getD [] = [] ∧ cs = rest) ∨ Spec.InnerQuotes quote cs (last.getD []) rest :=
    (reads_innerQuotes quote _).attempt (fun _ _ _ hq => Or.inr hq) fun _ => Or.inl ⟨rfl, rfl⟩
  refine hword.bind fun _ => hnewline.bind fun _ => h.many.bind fun first => hgroup.many.bind fun groups =>
    hlast.bind fun last => hword.commit.bind fun _ => reads_pure ?_
  rintro rest c hend b hlast a hgroups start hfirst _ hstart _ rfl
  exact .intro ⟨start, hstart, Spec.parts_of_many hfirst⟩ hgroups hlast hend

end Multiline

theorem reads_multilineBasic :
    Reads multilineBasic (Spec.MultilineString '"' Spec.BasicContent) := by
  have hunescaped : Reads (takeWhile₁ isUnescaped) (Spec.Parts₁ Spec.BasicContent) :=
    reads_unescaped.mono fun _ _ _ h => Spec.parts₁_of_many h.1 (h.2.mono fun _ _ _ hc => .char hc)
  have hcontinuation : Reads continuation (Spec.Parts₁ Spec.BasicContent) := by
    refine reads_continuation.mono ?_
    rintro cs w rest ⟨rfl, h⟩
    exact Spec.parts₁_of_content h
  have hescape : Reads (do return [← escape]) (Spec.Parts₁ Spec.BasicContent) :=
    reads_escape.bind fun c => reads_pure fun rest cs hc =>
      Spec.parts₁_of_content (.char (.escape hc))
  have hlineEnd : Reads lineEnd (Spec.Parts₁ Spec.BasicContent) := by
    refine reads_lineEnd.mono ?_
    rintro cs w rest ⟨rfl, hn⟩
    exact Spec.parts₁_of_content (.newline hn)
  exact (reads_multiline (hunescaped.orElse (hcontinuation.orElse (hescape.orElse hlineEnd)))).labelled _

theorem reads_multilineLiteral :
    Reads multilineLiteral (Spec.MultilineString '\'' Spec.LiteralContent) := by
  have hliteral : Reads (takeWhile₁ isLiteral) (Spec.Parts₁ Spec.LiteralContent) := by
    refine (reads_takeWhile₁ isLiteral).mono ?_
    rintro _ w rest ⟨rfl, hne, hw⟩
    exact Spec.parts₁_of_many hne (Many.of_chars fun c hc _ => .char (isLiteral_iff.1 (hw c hc)))
  have hlineEnd : Reads lineEnd (Spec.Parts₁ Spec.LiteralContent) := by
    refine reads_lineEnd.mono ?_
    rintro cs w rest ⟨rfl, hn⟩
    exact Spec.parts₁_of_content (.newline hn)
  exact (reads_multiline (hliteral.orElse hlineEnd)).labelled _

theorem reads_text : Reads text Spec.StringText := by
  have hany : Reads (orElse multilineBasic (orElse basic (orElse multilineLiteral literal)))
      fun cs w rest => Spec.StringText cs (String.ofList w) rest := by
    simp only [Spec.StringText, String.toList_ofList]
    refine (reads_multilineBasic.mono ?_).orElse ((reads_basic.mono ?_).orElse
      ((reads_multilineLiteral.mono ?_).orElse (reads_literal.mono ?_)))
    · exact fun _ _ _ h => Or.inr (Or.inr (Or.inl h))
    · exact fun _ _ _ h => Or.inl h
    · exact fun _ _ _ h => Or.inr (Or.inr (Or.inr h))
    · exact fun _ _ _ h => Or.inr (Or.inl h)
  exact hany.bind fun w => reads_pure fun _ _ h => h

theorem reads_quoted : Reads quoted Spec.SimpleKey := by
  refine reads_rest.bind fun start => ?_
  split
  · refine reads_basic.bind fun w => reads_pure ?_
    rintro rest mid hw cs ⟨-, rfl⟩
    exact .basic hw
  · refine reads_literal.bind fun w => reads_pure ?_
    rintro rest mid hw cs ⟨-, rfl⟩
    exact .literal hw

end TypeScriptRepl.Toml
