import TypeScriptRepl.Json.Quoted
import TypeScriptRepl.Proofs.Text.Occurrences

/-! A literal stands for one text, whatever follows it. -/
namespace TypeScriptRepl.Json.Quoted

/-- The rest of a literal up to its end, by quotes and backslashes alone, and the text after it. A
backslash takes the character after it along. -/
def closing? : List Char → Option (List Char × List Char)
  | [] => none
  | [c] => if c = '"' then some (['"'], []) else none
  | c :: d :: rest =>
    if c = '"' then some (['"'], d :: rest)
    else if c = '\\' then (closing? rest).map fun (inside, after) => (c :: d :: inside, after)
    else (closing? (d :: rest)).map fun (inside, after) => (c :: inside, after)

def literal? : List Char → Option (List Char × List Char)
  | [] => none
  | c :: rest =>
    if c = '"' then (closing? rest).map fun (inside, after) => (c :: inside, after) else none

theorem hexWord?_hexDigit {n : Nat} (h : n < 32) :
    hexWord? '0' '0' (hexDigit (n / 16)) (hexDigit (n % 16)) = some n := by
  have hs : ∀ n < 32, hexWord? '0' '0' (hexDigit (n / 16)) (hexDigit (n % 16)) = some n := by decide
  exact hs n h

/-- A character is written as it is, behind a backslash as a letter, or as its number. -/
theorem escape_cases (c : Char) :
    (escape c = [c] ∧ 32 ≤ c.toNat ∧ c ≠ '"' ∧ c ≠ '\\') ∨
      (∃ e, escape c = ['\\', e] ∧ simpleEscape? e = some c ∧ e ≠ 'u' ∧ 32 ≤ e.toNat) ∨
      (escape c = ['\\', 'u', '0', '0', hexDigit (c.toNat / 16), hexDigit (c.toNat % 16)] ∧
        c.toNat < 32) := by
  have letter {e : Char} (hc : escape c = ['\\', e]) (he : simpleEscape? e = some c)
      (hu : e ≠ 'u' ∧ 32 ≤ e.toNat) : ∃ e, escape c = ['\\', e] ∧ simpleEscape? e = some c ∧
        e ≠ 'u' ∧ 32 ≤ e.toNat := ⟨e, hc, he, hu⟩
  by_cases h : c ∈ ['"', '\\', '\x08', '\x0c', '\n', '\r', '\t']
  · right; left
    simp only [List.mem_cons, List.not_mem_nil, or_false] at h
    rcases h with rfl | rfl | rfl | rfl | rfl | rfl | rfl
    all_goals exact letter rfl rfl (by decide)
  · simp only [List.mem_cons, List.not_mem_nil, or_false, not_or] at h
    obtain ⟨hq, hb, h1, h2, h3, h4, h5⟩ := h
    have he : escape c = if c.toNat < 32 then
        ['\\', 'u', '0', '0', hexDigit (c.toNat / 16), hexDigit (c.toNat % 16)] else [c] := by
      simp only [escape, hq, hb, h1, h2, h3, h4, h5, if_false]
    by_cases hc : c.toNat < 32
    · right; right
      exact ⟨by rw [he, if_pos hc], hc⟩
    · left
      exact ⟨by rw [he, if_neg hc], by omega, hq, hb⟩

theorem hexDigit_plain :
    ∀ n < 16, 32 ≤ (hexDigit n).toNat ∧ hexDigit n ≠ '"' ∧ hexDigit n ≠ '\\' := by
  decide

theorem le_toNat_of_mem_escape {c d : Char} (h : d ∈ escape c) : 32 ≤ d.toNat := by
  rcases escape_cases c with ⟨he, hc, -⟩ | ⟨e, he, -, -, hle⟩ | ⟨he, hc⟩
  · rw [he, List.mem_singleton] at h
    rwa [h]
  · rw [he] at h
    rcases List.mem_cons.1 h with rfl | h
    · decide
    · rw [List.mem_singleton] at h
      rwa [h]
  · have hhigh := (hexDigit_plain (c.toNat / 16) (by omega)).1
    have hlow := (hexDigit_plain (c.toNat % 16) (by omega)).1
    rw [he] at h
    simp only [List.mem_cons, List.not_mem_nil, or_false] at h
    rcases h with rfl | rfl | rfl | rfl | rfl | rfl
    · decide
    · decide
    · decide
    · decide
    · exact hhigh
    · exact hlow

theorem le_toNat_of_mem_encode {cs : List Char} {d : Char} (h : d ∈ encode cs) : 32 ≤ d.toNat := by
  have hq : 32 ≤ '"'.toNat := by decide
  simp only [encode, List.cons_append, List.mem_cons, List.mem_append, List.mem_flatMap,
    List.not_mem_nil, or_false] at h
  rcases h with rfl | ⟨c, -, h⟩ | rfl
  · exact hq
  · exact le_toNat_of_mem_escape h
  · exact hq

theorem newline_not_mem_encode (cs : List Char) : '\n' ∉ encode cs := fun h =>
  absurd (le_toNat_of_mem_encode h) (by decide)

theorem closing?_escape (c : Char) (rest : List Char) (hr : rest ≠ []) :
    closing? (escape c ++ rest) =
      (closing? rest).map fun (inside, after) => (escape c ++ inside, after) := by
  obtain ⟨d, rest, rfl⟩ := List.exists_cons_of_ne_nil hr
  rcases escape_cases c with ⟨he, -, hq, hb⟩ | ⟨e, he, -, -, -⟩ | ⟨he, hc⟩
  · simp [he, closing?, hq, hb]
  · simp [he, closing?]
  · have h1 := (hexDigit_plain (c.toNat / 16) (by omega)).2
    have h2 := (hexDigit_plain (c.toNat % 16) (by omega)).2
    simp [he, closing?, h1, h2, Function.comp_def]

theorem closing?_flatMap_escape (cs rest : List Char) :
    closing? (cs.flatMap escape ++ '"' :: rest) = some (cs.flatMap escape ++ ['"'], rest) := by
  induction cs with
  | nil => cases rest <;> rfl
  | cons c cs ih =>
    rw [List.flatMap_cons, List.append_assoc, closing?_escape c _ (by simp), ih]
    simp

/-- The only quote that ends a literal is its last one. -/
theorem literal?_encode (cs rest : List Char) :
    literal? (encode cs ++ rest) = some (encode cs, rest) := by
  have h := closing?_flatMap_escape cs rest
  simp [encode, literal?, h]

theorem read_plain {c : Char} (hc : 32 ≤ c.toNat) (hq : c ≠ '"') (hb : c ≠ '\\')
    (rest found : List Char) : read (c :: rest) none found = read rest none (c :: found) := by
  have hn : ¬(c.toNat < 32 ∨ c = '\\') := by
    rintro (h | h)
    · omega
    · exact hb h
  rw [read]
  · rw [if_neg hn]
  · exact hq
  · intro a b d e rest h
    exact absurd h hb
  · intro d rest h
    exact absurd h hb

theorem read_letter {c e : Char} (hs : simpleEscape? e = some c) (hu : e ≠ 'u')
    (rest found : List Char) : read ('\\' :: e :: rest) none found = read rest none (c :: found) := by
  rw [read]
  · rw [hs]
  · intro a b d e' rest' h
    exact absurd h hu

theorem read_number {c : Char} (hc : c.toNat < 32) (rest found : List Char) :
    read ('\\' :: 'u' :: '0' :: '0' :: hexDigit (c.toNat / 16) :: hexDigit (c.toNat % 16) :: rest)
      none found = read rest none (c :: found) := by
  have h1 : ¬(55296 ≤ c.toNat ∧ c.toNat < 56320) := by omega
  have h2 : ¬(56320 ≤ c.toNat ∧ c.toNat < 57344) := by omega
  rw [read.eq_def]
  simp only [hexWord?_hexDigit hc, h1, h2, if_false, Char.ofNat_toNat]

theorem read_escape (c : Char) (rest found : List Char) :
    read (escape c ++ rest) none found = read rest none (c :: found) := by
  rcases escape_cases c with ⟨he, hc, hq, hb⟩ | ⟨e, he, hs, hu, -⟩ | ⟨he, hc⟩
  · rw [he]
    exact read_plain hc hq hb rest found
  · rw [he]
    exact read_letter hs hu rest found
  · rw [he]
    exact read_number hc rest found

theorem read_flatMap_escape (cs rest found : List Char) :
    read (cs.flatMap escape ++ '"' :: rest) none found = some (found.reverse ++ cs, rest) := by
  induction cs generalizing found with
  | nil => simp [read]
  | cons c cs ih => rw [List.flatMap_cons, List.append_assoc, read_escape, ih]; simp

theorem decode_encode (cs rest : List Char) : decode (encode cs ++ rest) = some (cs, rest) := by
  have h := read_flatMap_escape cs rest []
  simpa [encode, decode] using h

theorem slash_notMem_escape {c : Char} (h : escape c ≠ [c]) : '/' ∉ escape c := by
  intro hs
  rcases escape_cases c with ⟨he, -⟩ | ⟨e, he, hsimple, -, -⟩ | ⟨he, hc⟩
  · exact h he
  · rw [he, List.mem_cons, List.mem_singleton] at hs
    rcases hs with hs | rfl
    · exact absurd hs (by decide)
    · cases Option.some.inj hsimple
      exact h rfl
  · have digit : ∀ n < 16, '/' ≠ hexDigit n := by decide
    rw [he] at hs
    simp only [List.mem_cons, List.not_mem_nil, or_false] at hs
    rcases hs with hs | hs | hs | hs | hs | hs
    · exact absurd hs (by decide)
    · exact absurd hs (by decide)
    · exact absurd hs (by decide)
    · exact absurd hs (by decide)
    · exact digit (c.toNat / 16) (by omega) hs
    · exact digit (c.toNat % 16) (by omega) hs

theorem head?_escape {c : Char} (h : escape c ≠ [c]) : (escape c).head? = some '\\' := by
  rcases escape_cases c with ⟨he, -⟩ | ⟨e, he, -⟩ | ⟨he, -⟩
  · exact absurd he h
  · rw [he, List.head?_cons]
  · rw [he, List.head?_cons]

/-- Without a backslash, a text that a written text begins with is one that it begins with itself. -/
theorem prefix_of_prefix_flatMap_escape {word cs : List Char} (hw : '\\' ∉ word)
    (h : word <+: cs.flatMap escape) : word <+: cs := by
  induction cs generalizing word with
  | nil => exact h
  | cons c cs ih =>
    cases word with
    | nil => exact List.nil_prefix
    | cons a word =>
      rw [List.mem_cons, not_or] at hw
      rw [List.flatMap_cons] at h
      by_cases hc : escape c = [c]
      · rw [hc, List.singleton_append, List.cons_prefix_cons] at h
        exact List.cons_prefix_cons.2 ⟨h.1, ih hw.2 h.2⟩
      · obtain ⟨rest, hrest⟩ := List.head?_eq_some_iff.1 (head?_escape hc)
        rw [hrest, List.cons_append, List.cons_prefix_cons] at h
        exact absurd h.1.symm hw.1

/-- Writing a text brings no word into it that begins with a slash and has no backslash. -/
theorem infix_of_infix_flatMap_escape {word cs : List Char} (hw : '\\' ∉ word)
    (h : '/' :: word <:+: cs.flatMap escape) : '/' :: word <:+: cs := by
  have hslash : '\\' ∉ '/' :: word := by
    rw [List.mem_cons, not_or]
    exact ⟨by decide, hw⟩
  induction cs with
  | nil => exact h
  | cons c cs ih =>
    by_cases hc : escape c = [c]
    · have hcons : (c :: cs).flatMap escape = c :: cs.flatMap escape := by
        rw [List.flatMap_cons, hc, List.singleton_append]
      rw [hcons, List.infix_cons_iff, ← hcons] at h
      rcases h with h | h
      · exact (prefix_of_prefix_flatMap_escape hslash h).isInfix
      · exact (ih h).trans (List.suffix_cons c cs).isInfix
    · rw [List.flatMap_cons] at h
      have h' := Text.infix_of_notMem_append (slash_notMem_escape hc) h
      exact (ih h').trans (List.suffix_cons c cs).isInfix

end TypeScriptRepl.Json.Quoted
