import TypeScriptRepl.Text.Utf8

/-! The bytes of a text are read as this text. -/
namespace TypeScriptRepl.Text.Utf8

theorem isTail_eq_true {b : UInt8} (h : 0x80 ≤ b.toNat ∧ b.toNat ≤ 0xBF) : isTail b = true := by
  simpa [isTail, UInt8.le_iff_toNat_le] using h

/-- A byte that goes on with a character may be its second one, but for four first bytes, which allow
only some of them. -/
theorem isSecond_eq_true {a b : UInt8} (h : 0x80 ≤ b.toNat ∧ b.toNat ≤ 0xBF)
    (hE0 : a.toNat = 0xE0 → 0xA0 ≤ b.toNat) (hED : a.toNat = 0xED → b.toNat ≤ 0x9F)
    (hF0 : a.toNat = 0xF0 → 0x90 ≤ b.toNat) (hF4 : a.toNat = 0xF4 → b.toNat ≤ 0x8F) :
    isSecond a b = true := by
  have hle {x : UInt8} {n : Nat} (hx : x.toNat = n) (hn : n ≤ b.toNat) : x ≤ b := by
    rw [UInt8.le_iff_toNat_le, hx]
    exact hn
  have hge {x : UInt8} {n : Nat} (hx : x.toNat = n) (hn : b.toNat ≤ n) : b ≤ x := by
    rw [UInt8.le_iff_toNat_le, hx]
    exact hn
  unfold isSecond
  by_cases h0 : a = 0xE0
  · rw [if_pos h0, Bool.and_eq_true, decide_eq_true_eq, decide_eq_true_eq]
    exact ⟨hle rfl (hE0 (congrArg _ h0)), hge rfl h.2⟩
  · rw [if_neg h0]
    by_cases hD : a = 0xED
    · rw [if_pos hD, Bool.and_eq_true, decide_eq_true_eq, decide_eq_true_eq]
      exact ⟨hle rfl h.1, hge rfl (hED (congrArg _ hD))⟩
    · rw [if_neg hD]
      by_cases hF : a = 0xF0
      · rw [if_pos hF, Bool.and_eq_true, decide_eq_true_eq, decide_eq_true_eq]
        exact ⟨hle rfl (hF0 (congrArg _ hF)), hge rfl h.2⟩
      · rw [if_neg hF]
        by_cases h4 : a = 0xF4
        · rw [if_pos h4, Bool.and_eq_true, decide_eq_true_eq, decide_eq_true_eq]
          exact ⟨hle rfl h.1, hge rfl (hF4 (congrArg _ h4))⟩
        · rw [if_neg h4]
          exact isTail_eq_true h

theorem bits_ofNat {n : Nat} (h : n < 256) (size : Nat) :
    bits (UInt8.ofNat n) size = n % (1 <<< size) := by
  rw [bits, UInt8.toNat_ofNat', Nat.mod_eq_of_lt h]

theorem pieces_one {a : UInt8} (h : a.toNat < 0x80) (rest : List UInt8) :
    pieces (a :: rest) = some (Char.ofNat a.toNat) :: pieces rest := by
  have ha : a < 0x80 := UInt8.lt_iff_toNat_lt.2 h
  rw [pieces.eq_def]
  simp only [ha, if_true]

section

variable {a b c d : UInt8}

/-- A byte that begins a character of more than one byte. -/
theorem not_lt_of_isFirst (ha : 0xC2 ≤ a.toNat ∧ a.toNat ≤ 0xF4) :
    ¬a < 0x80 ∧ ¬a < 0xC2 ∧ ¬0xF4 < a := by
  refine ⟨?_, ?_, ?_⟩
  · rw [UInt8.lt_iff_toNat_lt]
    show ¬a.toNat < 0x80
    omega
  · rw [UInt8.lt_iff_toNat_lt]
    show ¬a.toNat < 0xC2
    omega
  · rw [UInt8.lt_iff_toNat_lt]
    show ¬0xF4 < a.toNat
    omega

theorem pieces_two (ha : 0xC2 ≤ a.toNat ∧ a.toNat < 0xE0) (hs : isSecond a b = true)
    (rest : List UInt8) :
    pieces (a :: b :: rest) = some (Char.ofNat (bits a 5 * 64 + bits b 6)) :: pieces rest := by
  obtain ⟨h1, h2, h3⟩ := not_lt_of_isFirst (a := a) (by omega)
  have h4 : a < 0xE0 := UInt8.lt_iff_toNat_lt.2 ha.2
  rw [pieces.eq_def]
  simp [h1, h2, h3, h4, hs]

theorem pieces_three (ha : 0xE0 ≤ a.toNat ∧ a.toNat < 0xF0) (hs : isSecond a b = true)
    (hc : isTail c = true) (rest : List UInt8) :
    pieces (a :: b :: c :: rest) =
      some (Char.ofNat ((bits a 4 * 64 + bits b 6) * 64 + bits c 6)) :: pieces rest := by
  obtain ⟨h1, h2, h3⟩ := not_lt_of_isFirst (a := a) (by omega)
  have h4 : ¬a < 0xE0 := by
    rw [UInt8.lt_iff_toNat_lt]
    show ¬a.toNat < 0xE0
    omega
  have h5 : a < 0xF0 := UInt8.lt_iff_toNat_lt.2 ha.2
  rw [pieces.eq_def]
  simp [h1, h2, h3, h4, h5, hs, hc]

theorem pieces_four (ha : 0xF0 ≤ a.toNat ∧ a.toNat ≤ 0xF4) (hs : isSecond a b = true)
    (hc : isTail c = true) (hd : isTail d = true) (rest : List UInt8) :
    pieces (a :: b :: c :: d :: rest) =
      some (Char.ofNat (((bits a 3 * 64 + bits b 6) * 64 + bits c 6) * 64 + bits d 6)) ::
        pieces rest := by
  obtain ⟨h1, h2, h3⟩ := not_lt_of_isFirst (a := a) (by omega)
  have h4 : ¬a < 0xE0 := by
    rw [UInt8.lt_iff_toNat_lt]
    show ¬a.toNat < 0xE0
    omega
  have h5 : ¬a < 0xF0 := by
    rw [UInt8.lt_iff_toNat_lt]
    show ¬a.toNat < 0xF0
    omega
  rw [pieces.eq_def]
  simp [h1, h2, h3, h4, h5, hs, hc, hd]

end

/-- The bytes of a character are read as this character, whatever follows them. -/
theorem pieces_utf8EncodeChar (c : Char) (rest : List UInt8) :
    pieces (String.utf8EncodeChar c ++ rest) = some c :: pieces rest := by
  have hb {n : Nat} (h : n < 256) : (UInt8.ofNat n).toNat = n := by
    rw [UInt8.toNat_ofNat', Nat.mod_eq_of_lt h]
  have char {n : Nat} (h : n = c.toNat) : Char.ofNat n = c := by rw [h, Char.ofNat_toNat]
  have hvalid : c.toNat < 0xD800 ∨ (0xDFFF < c.toNat ∧ c.toNat < 0x110000) := c.valid
  have hv : c.val.toNat = c.toNat := rfl
  unfold String.utf8EncodeChar
  rw [hv]
  generalize hn : c.toNat = n at *
  by_cases h1 : n ≤ 0x7F
  · have ha : (UInt8.ofNat n).toNat = n := hb (by omega)
    rw [if_pos h1, List.singleton_append, pieces_one (by omega), ha, char rfl]
  rw [if_neg h1]
  by_cases h2 : n ≤ 0x7FF
  · have ha := hb (show n / 64 % 32 + 192 < 256 by omega)
    have ht := hb (show n % 64 + 128 < 256 by omega)
    have hs : isSecond (UInt8.ofNat (n / 64 % 32 + 192)) (UInt8.ofNat (n % 64 + 128)) = true := by
      apply isSecond_eq_true <;> omega
    rw [if_pos h2, List.cons_append, List.singleton_append, pieces_two (by omega) hs, char]
    rw [bits_ofNat (by omega), bits_ofNat (by omega)]
    simp only [Nat.reduceShiftLeft]
    omega
  rw [if_neg h2]
  by_cases h3 : n ≤ 0xFFFF
  · have ha := hb (show n / 4096 % 16 + 224 < 256 by omega)
    have ht := hb (show n / 64 % 64 + 128 < 256 by omega)
    have hu := hb (show n % 64 + 128 < 256 by omega)
    rw [if_pos h3]
    simp only [List.cons_append, List.nil_append]
    rw [pieces_three (by omega) (by apply isSecond_eq_true <;> omega)
      (isTail_eq_true (by omega)), char]
    rw [bits_ofNat (by omega), bits_ofNat (by omega), bits_ofNat (by omega)]
    simp only [Nat.reduceShiftLeft]
    omega
  · have ha := hb (show n / 262144 % 8 + 240 < 256 by omega)
    have ht := hb (show n / 4096 % 64 + 128 < 256 by omega)
    have hu := hb (show n / 64 % 64 + 128 < 256 by omega)
    have hw := hb (show n % 64 + 128 < 256 by omega)
    rw [if_neg h3]
    simp only [List.cons_append, List.nil_append]
    rw [pieces_four (by omega) (by apply isSecond_eq_true <;> omega)
      (isTail_eq_true (by omega)) (isTail_eq_true (by omega)), char]
    rw [bits_ofNat (by omega), bits_ofNat (by omega), bits_ofNat (by omega), bits_ofNat (by omega)]
    simp only [Nat.reduceShiftLeft]
    omega

theorem pieces_encode (cs : List Char) : pieces (encode cs) = cs.map some := by
  induction cs with
  | nil => rfl
  | cons c cs ih =>
    have hc : encode (c :: cs) = String.utf8EncodeChar c ++ encode cs := List.flatMap_cons
    rw [hc, pieces_utf8EncodeChar, ih, List.map_cons]

theorem decode?_encode (cs : List Char) : decode? (encode cs) = some cs := by
  rw [decode?, pieces_encode]
  induction cs with
  | nil => rfl
  | cons c cs ih =>
    rw [List.map_cons, List.mapM_cons, ih]
    rfl

theorem decodeLossy_encode (cs : List Char) : decodeLossy (encode cs) = cs := by
  rw [decodeLossy, pieces_encode, List.map_map]
  exact List.map_id cs

theorem eq_of_encode_eq {as bs : List Char} (h : encode as = encode bs) : as = bs := by
  have hread := congrArg decode? h
  rwa [decode?_encode, decode?_encode, Option.some_inj] at hread

/-- A byte that is a character itself stands for nothing else. -/
theorem mem_utf8EncodeChar_iff {a : UInt8} (ha : a.toNat < 0x80) {c : Char} :
    a ∈ String.utf8EncodeChar c ↔ c.toNat = a.toNat := by
  have hv : c.val.toNat = c.toNat := rfl
  constructor
  · intro h
    have byte {n : Nat} (hn : n < 256) (he : a = UInt8.ofNat n) : n = a.toNat := by
      rw [he, UInt8.toNat_ofNat', Nat.mod_eq_of_lt hn]
    have hvalid : c.toNat < 0x110000 := by
      rcases c.valid with hv | ⟨-, hv⟩
      · exact Nat.lt_trans hv (by decide)
      · exact hv
    simp only [String.utf8EncodeChar, hv] at h
    -- every byte of a character of two bytes or more is 128 at least
    split at h
    · exact byte (by omega) (List.mem_singleton.1 h)
    · split at h
      · simp only [List.mem_cons, List.not_mem_nil, or_false] at h
        rcases h with h | h <;> have hn := byte (by omega) h <;> omega
      · split at h
        · simp only [List.mem_cons, List.not_mem_nil, or_false] at h
          rcases h with h | h | h <;> have hn := byte (by omega) h <;> omega
        · simp only [List.mem_cons, List.not_mem_nil, or_false] at h
          rcases h with h | h | h | h <;> have hn := byte (by omega) h <;> omega
  · intro h
    simp only [String.utf8EncodeChar, hv, h]
    rw [if_pos (by omega), List.mem_singleton, UInt8.ofNat_toNat]

end TypeScriptRepl.Text.Utf8
