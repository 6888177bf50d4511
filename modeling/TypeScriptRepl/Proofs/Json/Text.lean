import TypeScriptRepl.Json.Text
import TypeScriptRepl.Proofs.Json.Quoted
import TypeScriptRepl.Proofs.Text.Digits

/-! Values whose texts read back: keywords, strings, natural numbers, and lists and objects of these. -/
namespace TypeScriptRepl.Json

/-- The text of the value reads back, whatever follows it, and does not begin as a blank or the end
of a list does. -/
structure ReadsBack (j : Json) : Prop where
  starts : ∃ c cs, j.render = c :: cs ∧ isBlank c = false ∧ c ≠ ']'
  reads : ∀ n rest, j.render.length ≤ n → value? n (j.render ++ rest) = some (j, rest)

/-- A list or an object goes on or ends here, or the text does. -/
def EndsValue : List Char → Prop
  | [] => True
  | c :: _ => c = ',' ∨ c = ']' ∨ c = '}'

theorem endsValue_comma (cs : List Char) : EndsValue (',' :: cs) := Or.inl rfl

theorem endsValue_bracket (cs : List Char) : EndsValue (']' :: cs) := Or.inr (Or.inl rfl)

theorem endsValue_brace (cs : List Char) : EndsValue ('\x7d' :: cs) := Or.inr (Or.inr rfl)

/-- The text of the value reads back within a list or an object, and at the end of a text. -/
structure ReadsInside (j : Json) : Prop where
  starts : ∃ c cs, j.render = c :: cs ∧ isBlank c = false ∧ c ≠ ']'
  reads : ∀ n rest, EndsValue rest → j.render.length ≤ n → value? n (j.render ++ rest) = some (j, rest)

theorem ReadsBack.inside {j : Json} (h : ReadsBack j) : ReadsInside j :=
  ⟨h.starts, fun n rest _ => h.reads n rest⟩

theorem skipBlanks_cons {c : Char} (h : isBlank c = false) (rest : List Char) :
    skipBlanks (c :: rest) = c :: rest := by
  simp [skipBlanks, h]

theorem value?_string (n : Nat) (cs : List Char) : value? (n + 1) ('"' :: cs) =
    (Quoted.decode ('"' :: cs)).map fun (s, rest) => (string (String.ofList s), rest) := rfl

theorem value?_null (n : Nat) (cs : List Char) :
    value? (n + 1) ('n' :: cs) = (keyword? "ull".toList cs).map (null, ·) := rfl

theorem value?_true (n : Nat) (cs : List Char) :
    value? (n + 1) ('t' :: cs) = (keyword? "rue".toList cs).map (bool true, ·) := rfl

theorem value?_false (n : Nat) (cs : List Char) :
    value? (n + 1) ('f' :: cs) = (keyword? "alse".toList cs).map (bool false, ·) := rfl

theorem value?_array (n : Nat) (cs : List Char) : value? (n + 1) ('[' :: cs) =
    match skipBlanks cs with
    | ']' :: rest => some (array [], rest)
    | rest => elements? n rest [] := rfl

theorem value?_object (n : Nat) (cs : List Char) : value? (n + 1) ('\x7b' :: cs) =
    match skipBlanks cs with
    | '\x7d' :: rest => some (object [], rest)
    | rest => members? n rest [] := rfl

theorem render_null : null.render = "null".toList := rfl

theorem render_bool (b : Bool) : (bool b).render = (if b then "true" else "false").toList := rfl

theorem render_string (s : String) : (string s).render = quote s := rfl

theorem render_array (xs : List Json) : (array xs).render = '[' :: renderAll xs true ++ [']'] := rfl

theorem render_object (fs : List (String × Json)) :
    (object fs).render = '\x7b' :: renderFields fs true ++ ['\x7d'] := rfl

/-- A text that reads back is all that it stands for. -/
theorem ReadsBack.parse? {j : Json} (h : ReadsBack j) : parse? j.render = some j := by
  have hr := h.reads (j.render.length + 1) [] (Nat.le_succ _)
  rw [List.append_nil] at hr
  simp [Json.parse?, hr, skipBlanks]

/-- There is fuel for a text that begins with some character. -/
theorem exists_succ_of_length_le {c : Char} {cs text : List Char} (ht : text = c :: cs) {n : Nat}
    (hn : text.length ≤ n) : ∃ m, n = m + 1 :=
  ⟨n - 1, by rw [ht, List.length_cons] at hn; omega⟩

theorem readsBack_string (s : String) : ReadsBack (.string s) where
  starts := ⟨'"', _, rfl, rfl, by decide⟩
  reads n rest hn := by
    have hd : Quoted.decode ((string s).render ++ rest) = some (s.toList, rest) :=
      Quoted.decode_encode _ _
    obtain ⟨cs, hc⟩ : ∃ cs, (string s).render ++ rest = '"' :: cs := ⟨_, rfl⟩
    obtain ⟨n, rfl⟩ := exists_succ_of_length_le rfl hn
    rw [hc] at hd ⊢
    simp only [value?_string, hd, Option.map_some, String.ofList_toList]

theorem readsBack_null : ReadsBack .null where
  starts := ⟨'n', _, rfl, rfl, by decide⟩
  reads n rest hn := by
    obtain ⟨n, rfl⟩ := exists_succ_of_length_le rfl hn
    simp [render_null, value?_null, keyword?]

theorem readsBack_bool (b : Bool) : ReadsBack (.bool b) where
  starts := by cases b <;> exact ⟨_, _, rfl, rfl, by decide⟩
  reads n rest hn := by
    cases b with
    | false =>
      obtain ⟨n, rfl⟩ := exists_succ_of_length_le rfl hn
      simp [render_bool, value?_false, keyword?]
    | true =>
      obtain ⟨n, rfl⟩ := exists_succ_of_length_le rfl hn
      simp [render_bool, value?_true, keyword?]

/-! Numbers. -/

theorem digits_append {ds rest : List Char} (hd : ∀ c ∈ ds, c.isDigit = true) (hr : EndsValue rest) :
    digits (ds ++ rest) = (ds, rest) := by
  have hstop : rest.takeWhile Char.isDigit = [] ∧ rest.dropWhile Char.isDigit = rest := by
    cases rest with
    | nil => exact ⟨rfl, rfl⟩
    | cons c rest =>
      have hc : c.isDigit = false := by rcases hr with rfl | rfl | rfl <;> rfl
      simp [hc]
  rw [digits, List.span_eq_takeWhile_dropWhile, List.takeWhile_append_of_pos hd,
    List.dropWhile_append_of_pos hd, hstop.1, hstop.2, List.append_nil]

theorem natOf_toDigits (n : Nat) : natOf (Nat.toDigits 10 n) = n := by
  have hf : (fun n (d : Char) => n * 10 + (d.toNat - 48)) = fun n d => 10 * n + (d.toNat - '0'.toNat) := by
    funext n d
    rw [Nat.mul_comm]
    rfl
  rw [natOf, hf]
  exact Nat.ofDigitChars_toDigits (by decide) (by decide)

theorem number?_toDigits (n : Nat) {rest : List Char} (hr : EndsValue rest) :
    number? (Nat.toDigits 10 n ++ rest) = some (.integer n, rest) := by
  have hd : ∀ c ∈ Nat.toDigits 10 n, c.isDigit = true :=
    fun c hc => Nat.isDigit_of_mem_toDigits (by decide) (by decide) hc
  have hzero : (Nat.toDigits 10 n).head? = some '0' → (Nat.toDigits 10 n).length ≤ 1 := by
    intro hz
    cases n with
    | zero => decide
    | succ n => exact absurd hz (Text.head?_toDigits n.succ_pos)
  have hf : fraction? rest = some ([], rest) := by
    cases rest with
    | nil => rfl
    | cons c rest => rcases hr with rfl | rfl | rfl <;> rfl
  have he : exponent? rest = some ([], rest) := by
    cases rest with
    | nil => rfl
    | cons c rest => rcases hr with rfl | rfl | rfl <;> rfl
  have hsign : ∀ cs, Nat.toDigits 10 n ++ rest ≠ '-' :: cs := by
    intro cs h
    obtain ⟨c, ds, hc⟩ := List.exists_cons_of_ne_nil (Nat.toDigits_ne_nil (n := n) (b := 10))
    refine Text.not_mem_toDigits (c := '-') rfl n ?_
    rw [hc] at h ⊢
    rw [(List.cons.inj h).1]
    exact List.mem_cons_self
  unfold number?
  split
  rename_i heq
  split at heq
  · exact absurd ‹_› (hsign _)
  · obtain ⟨rfl, rfl⟩ := Prod.mk.inj heq
    simpa [digits_append hd hr, hf, he, natOf_toDigits] using hzero

theorem render_natural (n : Nat) : (integer n).render = Nat.toDigits 10 n := by
  exact Nat.toList_repr

theorem isBlank_of_isDigit {c : Char} (h : c.isDigit = true) : isBlank c = false := by
  have hc : ∀ d : Char, d.isDigit = false → c ≠ d := by
    rintro d hd rfl
    rw [hd] at h
    cases h
  simp [isBlank, hc ' ' rfl, hc '\t' rfl, hc '\n' rfl, hc '\r' rfl]

theorem value?_of_isDigit {c : Char} (h : c.isDigit = true) (n : Nat) (cs : List Char) :
    value? (n + 1) (c :: cs) = number? (c :: cs) := by
  have hc : ∀ d : Char, ∀ ds, d.isDigit = false → c :: cs ≠ d :: ds := by
    rintro d ds hd heq
    rw [(List.cons.inj heq).1, hd] at h
    cases h
  rw [value?, skipBlanks_cons (isBlank_of_isDigit h)]
  split
  case h_1 heq => exact absurd heq (hc '[' _ rfl)
  case h_2 heq => exact absurd heq (hc '\x7b' _ rfl)
  case h_3 heq => exact absurd heq (hc '"' _ rfl)
  case h_4 heq => exact absurd heq (hc 'n' _ rfl)
  case h_5 heq => exact absurd heq (hc 't' _ rfl)
  case h_6 heq => exact absurd heq (hc 'f' _ rfl)
  case h_7 => rfl

theorem readsInside_natural (n : Nat) : ReadsInside (.integer n) := by
  obtain ⟨c, cs, hc⟩ := List.exists_cons_of_ne_nil (Nat.toDigits_ne_nil (n := n) (b := 10))
  have hd : c.isDigit = true :=
    Nat.isDigit_of_mem_toDigits (by decide) (by decide) (hc ▸ List.mem_cons_self)
  constructor
  · refine ⟨c, cs, (render_natural n).trans hc, isBlank_of_isDigit hd, ?_⟩
    rintro rfl
    cases hd
  · intro fuel rest hr hn
    have hnumber := number?_toDigits n hr
    obtain ⟨fuel, rfl⟩ := exists_succ_of_length_le ((render_natural n).trans hc) hn
    rw [render_natural, hc]
    rw [hc] at hnumber
    rw [List.cons_append, value?_of_isDigit hd, ← List.cons_append, hnumber]

/-! Lists. -/

theorem renderAll_cons (x : Json) (xs : List Json) (first : Bool) :
    renderAll (x :: xs) first = (if first then [] else [',']) ++ x.render ++ renderAll xs false := rfl

/-- The values of a list, from the first of them on, read back up to the end of the list. -/
theorem elements?_renderAll {x : Json} {xs : List Json} (h : ∀ y ∈ x :: xs, ReadsInside y) {n : Nat}
    (hn : (renderAll (x :: xs) true).length < n) (rest : List Char) (found : List Json) :
    elements? n (renderAll (x :: xs) true ++ ']' :: rest) found =
      some (.array (found.reverse ++ x :: xs), rest) := by
  induction xs generalizing x n found with
  | nil =>
    obtain ⟨n, rfl⟩ : ∃ m, n = m + 1 := ⟨n - 1, by omega⟩
    have hx := h x List.mem_cons_self
    rw [renderAll_cons, renderAll, if_pos rfl, List.nil_append, List.append_nil] at hn ⊢
    rw [elements?, hx.reads n _ (endsValue_bracket _) (by omega)]
    simp [skipBlanks_cons (show isBlank ']' = false by decide)]
  | cons y ys ih =>
    obtain ⟨n, rfl⟩ : ∃ m, n = m + 1 := ⟨n - 1, by omega⟩
    have hx := h x List.mem_cons_self
    have ht : renderAll (x :: y :: ys) true = x.render ++ ',' :: renderAll (y :: ys) true := by
      simp [renderAll_cons]
    have hl : (renderAll (x :: y :: ys) true).length =
        x.render.length + ((renderAll (y :: ys) true).length + 1) := by
      rw [ht, List.length_append, List.length_cons]
    have hr := ih (x := y) (fun z hz => h z (List.mem_cons_of_mem _ hz)) (n := n) (by omega)
      (x :: found)
    rw [ht, List.append_assoc, List.cons_append, elements?,
      hx.reads n _ (endsValue_comma _) (by omega)]
    simp only [skipBlanks_cons (show isBlank ',' = false by decide), hr]
    simp

theorem readsBack_array {xs : List Json} (h : ∀ x ∈ xs, ReadsInside x) : ReadsBack (.array xs) where
  starts := ⟨'[', _, render_array xs, rfl, by decide⟩
  reads n rest hn := by
    have ht : (array xs).render ++ rest = '[' :: (renderAll xs true ++ ']' :: rest) := by
      simp [render_array]
    have hl : (array xs).render.length = (renderAll xs true).length + 2 := by
      simp [render_array]
    obtain ⟨n, rfl⟩ : ∃ m, n = m + 1 := ⟨n - 1, by omega⟩
    rw [ht, value?_array]
    cases xs with
    | nil => simp [renderAll, skipBlanks_cons (show isBlank ']' = false by decide)]
    | cons x xs =>
      obtain ⟨c, cs, hc, hb, he⟩ := (h x List.mem_cons_self).starts
      have hr := elements?_renderAll h (n := n) (by omega) rest []
      have hs : renderAll (x :: xs) true ++ ']' :: rest =
          c :: (cs ++ renderAll xs false ++ ']' :: rest) := by
        simp [renderAll_cons, hc]
      rw [hs] at hr ⊢
      simp only [skipBlanks_cons hb]
      split
      case h_1 heq => exact absurd (List.cons.inj heq).1 he
      case h_2 heq => exact hr

/-! Objects. -/

theorem renderFields_cons (key : String) (x : Json) (fs : List (String × Json)) (first : Bool) :
    renderFields ((key, x) :: fs) first =
      (if first then [] else [',']) ++ quote key ++ ':' :: x.render ++ renderFields fs false := rfl

/-- The fields of an object, from the first of them on, read back up to the end of the object. -/
theorem members?_renderFields {f : String × Json} {fs : List (String × Json)}
    (h : ∀ g ∈ f :: fs, ReadsInside g.2) {n : Nat}
    (hn : (renderFields (f :: fs) true).length < n) (rest : List Char)
    (found : List (String × Json)) :
    members? n (renderFields (f :: fs) true ++ '\x7d' :: rest) found =
      some (.object (found.reverse ++ f :: fs), rest) := by
  have hquote (key : String) (cs : List Char) : skipBlanks (quote key ++ cs) = quote key ++ cs :=
    skipBlanks_cons rfl _
  have hkey (key : String) (cs : List Char) :
      Quoted.decode (quote key ++ cs) = some (key.toList, cs) := Quoted.decode_encode _ _
  induction fs generalizing f n found with
  | nil =>
    obtain ⟨key, x⟩ := f
    obtain ⟨n, rfl⟩ : ∃ m, n = m + 1 := ⟨n - 1, by omega⟩
    have hx : ReadsInside x := h (key, x) List.mem_cons_self
    have ht : renderFields [(key, x)] true = quote key ++ ':' :: x.render := by
      simp [renderFields]
    rw [ht, List.length_append, List.length_cons] at hn
    rw [ht, List.append_assoc, members?, hquote, hkey]
    simp only [List.cons_append, skipBlanks_cons (show isBlank ':' = false by decide),
      hx.reads n _ (endsValue_brace _) (by omega)]
    simp [skipBlanks_cons (show isBlank '\x7d' = false by decide)]
  | cons g gs ih =>
    obtain ⟨key, x⟩ := f
    have hg : renderFields (g :: gs) false = ',' :: renderFields (g :: gs) true := by
      obtain ⟨key, y⟩ := g
      simp [renderFields_cons]
    obtain ⟨n, rfl⟩ : ∃ m, n = m + 1 := ⟨n - 1, by omega⟩
    have hx : ReadsInside x := h (key, x) List.mem_cons_self
    have ht : renderFields ((key, x) :: g :: gs) true =
        quote key ++ ':' :: (x.render ++ ',' :: renderFields (g :: gs) true) := by
      simp [renderFields_cons key x, hg]
    rw [ht, List.length_append, List.length_cons, List.length_append, List.length_cons] at hn
    have hr := ih (f := g) (fun z hz => h z (List.mem_cons_of_mem _ hz)) (n := n) (by omega)
      ((key, x) :: found)
    rw [ht, List.append_assoc, members?, hquote, hkey]
    simp only [List.cons_append, List.append_assoc,
      skipBlanks_cons (show isBlank ':' = false by decide),
      hx.reads n _ (endsValue_comma _) (by omega), skipBlanks_cons (show isBlank ',' = false by decide),
      String.ofList_toList, hr]
    simp

theorem readsBack_object {fs : List (String × Json)} (h : ∀ f ∈ fs, ReadsInside f.2) :
    ReadsBack (.object fs) where
  starts := ⟨'\x7b', _, render_object fs, rfl, by decide⟩
  reads n rest hn := by
    have ht : (object fs).render ++ rest = '\x7b' :: (renderFields fs true ++ '\x7d' :: rest) := by
      simp [render_object]
    have hl : (object fs).render.length = (renderFields fs true).length + 2 := by
      simp [render_object]
    obtain ⟨n, rfl⟩ : ∃ m, n = m + 1 := ⟨n - 1, by omega⟩
    rw [ht, value?_object]
    cases fs with
    | nil => simp [renderFields, skipBlanks_cons (show isBlank '\x7d' = false by decide)]
    | cons f fs =>
      obtain ⟨key, x⟩ := f
      have hr := members?_renderFields h (n := n) (by omega) rest []
      have hs : ∃ cs, renderFields ((key, x) :: fs) true ++ '\x7d' :: rest = '"' :: cs :=
        ⟨_, by rw [renderFields_cons]; rfl⟩
      obtain ⟨cs, hs⟩ := hs
      rw [hs] at hr ⊢
      simp only [skipBlanks_cons (show isBlank '"' = false by decide)]
      exact hr

/-! Lists of strings. -/

theorem readsBack_ofStrings (vs : List String) : ReadsBack (.ofStrings vs) := by
  apply readsBack_array
  intro x hx
  obtain ⟨v, -, rfl⟩ := List.mem_map.1 hx
  exact (readsBack_string v).inside

theorem ofStrings_injective {vs ws : List String} (h : ofStrings vs = ofStrings ws) : vs = ws := by
  have hm : vs.map string = ws.map string := Json.array.inj h
  exact (List.map_inj_right fun _ _ => Json.string.inj).1 hm

theorem le_toNat_of_mem_renderAll {vs : List String} {first : Bool} {c : Char}
    (h : c ∈ renderAll (vs.map string) first) : 32 ≤ c.toNat := by
  induction vs generalizing first with
  | nil => simp [renderAll] at h
  | cons v vs ih =>
    rw [List.map_cons, renderAll_cons, List.mem_append, List.mem_append] at h
    rcases h with (h | h) | h
    · cases first
      · rw [show c = ',' by simpa using h]
        decide
      · simp at h
    · rw [render_string] at h
      exact Quoted.le_toNat_of_mem_encode h
    · exact ih h

/-- The text of a list of strings holds no control character. -/
theorem le_toNat_of_mem_render_ofStrings {vs : List String} {c : Char}
    (h : c ∈ (ofStrings vs).render) : 32 ≤ c.toNat := by
  rw [ofStrings, render_array, List.cons_append, List.mem_cons, List.mem_append, List.mem_singleton] at h
  rcases h with rfl | h | rfl
  · decide
  · exact le_toNat_of_mem_renderAll h
  · decide

end TypeScriptRepl.Json
