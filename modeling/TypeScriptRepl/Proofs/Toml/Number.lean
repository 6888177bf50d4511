import TypeScriptRepl.Proofs.Toml.Text

/-! Numbers, dates and times are read as the grammar has them, with the values that they stand for. -/
namespace TypeScriptRepl.Toml
open Reader

/-! ### Digits -/

section Digits

variable {p : Char → Bool} {P : Char → Prop} {cs ds rest w : List Char}

theorem reads_groupedDigit (hp : ∀ c, p c ↔ P c) : Reads (groupedDigit p) fun cs _ rest =>
    ∃ e, P e ∧ (cs = e :: rest ∨ cs = '_' :: e :: rest) := by
  have hplain : Reads (do let _ ← char p) fun cs _ rest =>
      ∃ e, P e ∧ (cs = e :: rest ∨ cs = '_' :: e :: rest) := by
    refine (reads_char p).bind fun e => reads_pure ?_
    rintro rest cs ⟨hcs, he⟩
    exact ⟨e, (hp e).1 he, Or.inl hcs⟩
  refine hplain.orElse ?_
  refine (reads_word "_").bind fun _ => ((reads_char p).commit.expecting _).bind fun e => reads_pure ?_
  rintro rest mid ⟨rfl, he⟩ cs hcs
  exact ⟨e, (hp e).1 he, Or.inr hcs⟩

abbrev Spec.MoreDigits (P : Char → Prop) : List Char → List Char → List Char → Prop :=
  Many fun cs e rest => P e ∧ (cs = e :: rest ∨ cs = '_' :: e :: rest)

theorem reads_groupedDigits (hp : ∀ c, p c ↔ P c) : Reads (many (groupedDigit p)) fun cs _ rest =>
    ∃ es, Spec.MoreDigits P cs es rest := by
  refine (reads_groupedDigit hp).many.mono ?_
  intro cs us rest h
  induction h with
  | nil cs => exact ⟨[], .nil cs⟩
  | cons head _ ih =>
    obtain ⟨e, he⟩ := head
    obtain ⟨es, hes⟩ := ih
    exact ⟨e :: es, .cons he hes⟩

theorem reads_grouped (hp : ∀ c, p c ↔ P c) : Reads (grouped p) fun cs _ rest =>
    ∃ ds, Spec.Digits P cs ds rest := by
  refine (reads_char p).bind fun d => (reads_groupedDigits hp).bind fun _ => reads_pure ?_
  rintro rest mid ⟨es, hes⟩ cs ⟨hcs, hd⟩
  exact ⟨d :: es, d, es, mid, rfl, (hp d).1 hd, hcs, hes⟩

theorem Spec.exists_of_moreDigits (hP : ¬P '_') (h : Spec.MoreDigits P cs ds rest) :
    ∃ w, cs = w ++ rest ∧ w.filter (· ≠ '_') = ds ∧ ∀ d ∈ ds, P d := by
  induction h with
  | nil cs => exact ⟨[], rfl, rfl, by simp⟩
  | cons head _ ih =>
    obtain ⟨he, hcs⟩ := head
    obtain ⟨w, rfl, rfl, hw⟩ := ih
    rename_i e _ _
    have hne : e ≠ '_' := fun h => hP (h ▸ he)
    rw [List.forall_mem_cons]
    rcases hcs with rfl | rfl
    · exact ⟨e :: w, rfl, by simp [hne], he, hw⟩
    · exact ⟨'_' :: e :: w, rfl, by simp [hne], he, hw⟩

/-- The digits of a text are what is left of it without underscores. -/
theorem Spec.Digits.filter_eq (hP : ¬P '_') (h : Spec.Digits P (w ++ rest) ds rest) :
    w.filter (· ≠ '_') = ds ∧ ∀ d ∈ ds, P d := by
  obtain ⟨d, es, mid, rfl, hd, hcs, hes⟩ := h
  obtain ⟨v, rfl, rfl, hv⟩ := Spec.exists_of_moreDigits hP hes
  rw [← List.cons_append, List.append_cancel_right_eq] at hcs
  have hne : d ≠ '_' := fun h => hP (h ▸ hd)
  rw [List.forall_mem_cons, hcs]
  exact ⟨by simp [hne], hd, hv⟩

theorem valueOf_eq (base : Nat) (hw : w.filter (· ≠ '_') = ds) (hds : ∀ d ∈ ds, Spec.IsHexDigit d) :
    valueOf base w = Spec.number base ds := by
  rw [valueOf, hw, foldl_digitValue hds]

theorem Spec.isHexDigit_of_isDigit {c : Char} (h : Spec.IsDigit c) : Spec.IsHexDigit c := Or.inl h

theorem Spec.underscore_not_isDigit : ¬Spec.IsDigit '_' := by
  rintro ⟨-, h⟩
  exact absurd h (by decide)

end Digits

theorem Spec.underscore_not_isHexDigit : ¬Spec.IsHexDigit '_' := by
  rintro (h | ⟨h, -⟩ | ⟨-, h⟩)
  · exact Spec.underscore_not_isDigit h
  · exact absurd h (by decide)
  · exact absurd h (by decide)

/-! ### Integers -/

theorem signed_eq {w v rest : List Char} {d : Char} {negative : Bool} (hd : Spec.IsDigit d)
    (h : Spec.Sign (w ++ rest) negative (d :: v ++ rest)) : signed w = (negative, d :: v) := by
  have hw {v : List Char} (h : w ++ rest = v ++ rest) : w = v := List.append_cancel_right h
  rcases h with ⟨rfl, h | h⟩ | ⟨rfl, h⟩
  · rw [hw h]
    unfold signed
    split
    · rename_i heq
      cases heq
      exact absurd hd.1 (by decide)
    · rename_i heq
      cases heq
      exact absurd hd.1 (by decide)
    · rfl
  · rw [hw (v := '+' :: d :: v) h]
    rfl
  · rw [hw (v := '-' :: d :: v) h]
    rfl

theorem reads_sign : Reads (attempt (char isSign)) fun cs sign rest =>
    Spec.Sign cs (sign = some '-') rest := by
  refine (reads_char isSign).attempt ?_ ?_
  · rintro cs c rest ⟨rfl, hc⟩
    have hsign : c = '+' ∨ c = '-' := by simpa [isSign] using hc
    rcases hsign with rfl | rfl
    · exact Or.inl ⟨rfl, Or.inr rfl⟩
    · exact Or.inr ⟨rfl, rfl⟩
  · intro cs
    exact Or.inl ⟨rfl, Or.inl rfl⟩

theorem reads_decimalInteger : Reads decimalInteger fun cs w rest =>
    cs = w ++ rest ∧ ∃ negative ds, Spec.Decimal cs negative ds rest := by
  have hdigits : Reads (orElse
      (do
        let _ ← char fun c => isDigit c && c ≠ '0'
        let _ ← many (groupedDigit isDigit))
      (do let _ ← char isDigit)) fun cs _ rest =>
        ∃ ds, Spec.Digits Spec.IsDigit cs ds rest ∧ (ds.head? = some '0' → ds = ['0']) := by
    refine Reads.orElse ?_ ?_
    · refine (reads_char _).bind fun d =>
        (reads_groupedDigits fun _ => isDigit_iff).bind fun _ => reads_pure ?_
      rintro rest mid ⟨es, hes⟩ cs ⟨hcs, hd⟩
      have hd : isDigit d ∧ d ≠ '0' := by simpa using hd
      refine ⟨d :: es, ⟨d, es, mid, rfl, isDigit_iff.1 hd.1, hcs, hes⟩, ?_⟩
      intro h
      exact absurd (Option.some.inj h) hd.2
    · refine (reads_char isDigit).bind fun d => reads_pure ?_
      rintro rest cs ⟨hcs, hd⟩
      refine ⟨[d], ⟨d, [], rest, rfl, isDigit_iff.1 hd, hcs, .nil rest⟩, ?_⟩
      intro h
      rw [Option.some.inj h]
  refine (Reads.taken (G := fun cs _ rest => ∃ negative ds, Spec.Decimal cs negative ds rest)
    ?_).labelled _ |>.mono ?_
  · refine reads_sign.bind fun sign => hdigits.mono ?_
    rintro mid _ rest ⟨ds, hds, hzero⟩ cs hsign
    exact ⟨_, ds, mid, hsign, hds, hzero⟩
  · rintro cs w rest ⟨hcs, _, h⟩
    exact ⟨hcs, h⟩

/-- The sign and the digits of a text are those of the number. -/
theorem signed_of_digits {w mid rest ds : List Char} {negative : Bool}
    (hsign : Spec.Sign (w ++ rest) negative mid) (hdigits : Spec.Digits Spec.IsDigit mid ds rest) :
    ∃ v, signed w = (negative, v) ∧ v.filter (· ≠ '_') = ds ∧ ∀ d ∈ ds, Spec.IsDigit d := by
  obtain ⟨d, es, mid', rfl, hd, rfl, hes⟩ := id hdigits
  obtain ⟨v, rfl, -⟩ := Spec.exists_of_moreDigits Spec.underscore_not_isDigit hes
  rw [← List.cons_append] at hdigits
  exact ⟨d :: v, signed_eq hd hsign, hdigits.filter_eq Spec.underscore_not_isDigit⟩

theorem inRange_eq_ok {n m : Int} (h : inRange n = .ok m) : m = n := by
  unfold inRange at h
  split at h
  · cases h
    rfl
  · cases h

theorem reads_based {base : Nat} {lead label : String} {p : Char → Bool} {P : Char → Prop}
    (hp : ∀ c, p c ↔ P c) (hP : ∀ c, P c → Spec.IsHexDigit c) :
    Reads (based base lead label p) fun cs n rest => ∃ ds mid, cs = lead.toList ++ mid ∧
      Spec.Digits P mid ds rest ∧ n = Spec.number base ds := by
  have hunderscore : ¬P '_' := fun h => Spec.underscore_not_isHexDigit (hP '_' h)
  have htext : Reads (do word lead; commit (taken (grouped p))) fun cs w rest =>
      ∃ ds, cs = lead.toList ++ (w ++ rest) ∧ Spec.Digits P (w ++ rest) ds rest := by
    refine (reads_word lead).bind fun _ => (reads_grouped hp).taken.commit.mono ?_
    rintro _ w rest ⟨rfl, -, ds, hds⟩ cs hcs
    exact ⟨ds, hcs, hds⟩
  refine ((htext.labelled label).check ?_).commit
  rintro cs w rest n ⟨ds, hcs, hds⟩ hn
  obtain ⟨hfilter, hdigit⟩ := hds.filter_eq hunderscore
  refine ⟨ds, w ++ rest, hcs, hds, ?_⟩
  rw [inRange_eq_ok hn, valueOf_eq base hfilter fun d hd => hP d (hdigit d hd)]

theorem reads_integer : Reads integer Spec.Integer := by
  have hoctal (c : Char) : ('0' ≤ c && c ≤ '7') ↔ '0' ≤ c ∧ c ≤ '7' := by simp
  have hbinary (c : Char) : (decide (c = '0') || decide (c = '1')) ↔ c = '0' ∨ c = '1' := by simp
  refine reads_rest.bind fun start => ?_
  split
  · refine (reads_based (fun _ => isHexDigit_iff) fun _ h => h).mono ?_
    rintro cs n rest ⟨ds, mid, rfl, hds, rfl⟩ _ ⟨-, rfl⟩
    exact .hexadecimal hds
  · refine (reads_based hoctal fun c h => ?_).mono ?_
    · exact Or.inl ⟨h.1, h.2.trans (by decide)⟩
    rintro cs n rest ⟨ds, mid, rfl, hds, rfl⟩ _ ⟨-, rfl⟩
    exact .octal hds
  · refine (reads_based hbinary fun c h => ?_).mono ?_
    · rcases h with rfl | rfl <;> exact Or.inl ⟨by decide, by decide⟩
    rintro cs n rest ⟨ds, mid, rfl, hds, rfl⟩ _ ⟨-, rfl⟩
    exact .binary hds
  · refine (reads_decimalInteger.ahead_check ?_).mono fun cs n rest h _ hcs => hcs.2 ▸ h
    rintro cs w rest n ⟨rfl, negative, ds, hsign⟩ hn
    obtain ⟨mid, hmid, hdigits, -⟩ := id hsign
    obtain ⟨v, hv, hfilter, hds⟩ := signed_of_digits hmid hdigits
    have hvalue := valueOf_eq 10 hfilter fun d hd => Spec.isHexDigit_of_isDigit (hds d hd)
    simp only [hv, hvalue] at hn
    rw [inRange_eq_ok hn]
    exact .decimal hsign

/-! ### Floats -/

theorem Spec.Sign.exists_eq_append {cs rest : List Char} {negative : Bool}
    (h : Spec.Sign cs negative rest) : ∃ w, cs = w ++ rest := by
  rcases h with ⟨-, rfl | rfl⟩ | ⟨-, rfl⟩
  · exact ⟨[], rfl⟩
  · exact ⟨['+'], rfl⟩
  · exact ⟨['-'], rfl⟩

theorem Spec.Digits.exists_eq_append {cs ds rest : List Char}
    (h : Spec.Digits Spec.IsDigit cs ds rest) : ∃ w, cs = w ++ rest := by
  obtain ⟨d, es, mid, -, -, rfl, hes⟩ := h
  obtain ⟨v, rfl, -⟩ := Spec.exists_of_moreDigits Spec.underscore_not_isDigit hes
  exact ⟨d :: v, rfl⟩

theorem Spec.Fraction.filter_eq {w rest ds : List Char} (h : Spec.Fraction (w ++ rest) ds rest) :
    (w.drop 1).filter (· ≠ '_') = ds ∧ ∀ d ∈ ds, Spec.IsDigit d := by
  obtain ⟨mid, hmid, hds⟩ := h
  obtain ⟨v, rfl⟩ := hds.exists_eq_append
  have hw : w = '.' :: v := List.append_cancel_right (hmid : w ++ rest = '.' :: v ++ rest)
  rw [hw]
  exact hds.filter_eq Spec.underscore_not_isDigit

theorem Spec.Exponent.value_eq {w rest : List Char} {e : Int}
    (h : Spec.Exponent (w ++ rest) e rest) :
    (if (signed (w.drop 1)).1 then -(valueOf 10 (signed (w.drop 1)).2 : Int)
      else valueOf 10 (signed (w.drop 1)).2) = e := by
  obtain ⟨letter, a, b, negative, ds, -, hletter, hsign, hdigits, rfl⟩ := h
  obtain ⟨v, rfl⟩ := hdigits.exists_eq_append
  obtain ⟨u, rfl⟩ := hsign.exists_eq_append
  have happend : w ++ rest = letter :: (u ++ v) ++ rest := by
    rw [hletter, List.cons_append, List.append_assoc]
  have hw : w = letter :: (u ++ v) := List.append_cancel_right happend
  rw [← List.append_assoc] at hsign
  obtain ⟨v', hv', hfilter, hds⟩ := signed_of_digits hsign hdigits
  have hvalue := valueOf_eq 10 hfilter fun d hd => Spec.isHexDigit_of_isDigit (hds d hd)
  rw [hw, List.drop_one, List.tail_cons, hv', hvalue]
  rfl

theorem floatOf_eq {whole frac exp ds places v : List Char} {negative : Bool} {e : Int}
    (hwhole : signed whole = (negative, v)) (hv : v.filter (· ≠ '_') = ds)
    (hds : ∀ d ∈ ds, Spec.IsDigit d) (hfrac : (frac.drop 1).filter (· ≠ '_') = places)
    (hplaces : ∀ d ∈ places, Spec.IsDigit d)
    (he : (if (signed (exp.drop 1)).1 then -(valueOf 10 (signed (exp.drop 1)).2 : Int)
      else valueOf 10 (signed (exp.drop 1)).2) = e) :
    floatOf whole frac exp =
      .ofDecimal negative (Spec.number 10 (ds ++ places)) (e - places.length) := by
  have hfilter : (v ++ places).filter (· ≠ '_') = ds ++ places := by
    rw [List.filter_append, hv, ← hfrac, List.filter_filter]
    simp only [Bool.and_self]
  have hdigits : ∀ d ∈ ds ++ places, Spec.IsHexDigit d := by
    intro d hd
    rcases List.mem_append.1 hd with hd | hd
    · exact Or.inl (hds d hd)
    · exact Or.inl (hplaces d hd)
  rw [floatOf, hwhole, hfrac, ← he, ← valueOf_eq 10 hfilter hdigits]

theorem reads_exponent : Reads exponent fun cs w rest =>
    cs = w ++ rest ∧ ∃ e, Spec.Exponent cs e rest := by
  refine (Reads.taken (G := fun cs _ rest => ∃ e, Spec.Exponent cs e rest) ?_).mono
    fun cs w rest h => ⟨h.1, h.2.choose_spec⟩
  refine (reads_char _).bind fun letter => reads_sign.bind fun sign =>
    (reads_grouped fun _ => isDigit_iff).commit.mono ?_
  rintro b _ rest ⟨ds, hds⟩ a hsign cs ⟨hcs, hletter⟩
  have hletter : letter = 'e' ∨ letter = 'E' := by simpa using hletter
  exact ⟨_, letter, a, b, _, ds, hletter, hcs, hsign, hds, rfl⟩

theorem reads_fraction : Reads fraction fun cs w rest =>
    cs = w ++ rest ∧ ∃ ds, Spec.Fraction cs ds rest := by
  refine (Reads.taken (G := fun cs _ rest => ∃ ds, Spec.Fraction cs ds rest) ?_).mono
    fun cs w rest h => ⟨h.1, h.2.choose_spec⟩
  refine (reads_word ".").bind fun _ =>
    ((reads_grouped fun _ => isDigit_iff).commit.expecting _).mono ?_
  rintro mid _ rest ⟨ds, hds⟩ cs hcs
  exact ⟨ds, mid, hcs, hds⟩

/-- A number with a fraction or an exponent, which may be too large. -/
theorem reads_number : Reads (do
    let whole ← decimalInteger
    let (frac, exp) ← orElse (do return (([] : List Char), ← exponent))
      (do
        let frac ← fraction
        return (frac, (← attempt exponent).getD []))
    return floatOf whole frac exp) Spec.Float := by
  have hparts : Reads (orElse (do return (([] : List Char), ← exponent))
      (do
        let frac ← fraction
        return (frac, (← attempt exponent).getD []))) fun a parts rest => ∃ places e,
          (parts.1.drop 1).filter (· ≠ '_') = places ∧ (∀ d ∈ places, Spec.IsDigit d) ∧
          (if (signed (parts.2.drop 1)).1 then -(valueOf 10 (signed (parts.2.drop 1)).2 : Int)
            else valueOf 10 (signed (parts.2.drop 1)).2) = e ∧
          ((∃ b, Spec.Fraction a places b ∧ (Spec.Exponent b e rest ∨ (e = 0 ∧ b = rest))) ∨
            (places = [] ∧ Spec.Exponent a e rest)) := by
    refine Reads.orElse ?_ ?_
    · refine reads_exponent.bind fun w => reads_pure ?_
      rintro rest _ ⟨rfl, e, he⟩
      exact ⟨[], e, rfl, by simp, he.value_eq, Or.inr ⟨rfl, he⟩⟩
    · have hexp : Reads (attempt exponent) fun b w rest => ∃ e,
          (if (signed ((w.getD []).drop 1)).1 then -(valueOf 10 (signed ((w.getD []).drop 1)).2 : Int)
            else valueOf 10 (signed ((w.getD []).drop 1)).2) = e ∧
          (Spec.Exponent b e rest ∨ (e = 0 ∧ b = rest)) := by
        refine reads_exponent.attempt ?_ fun cs => ⟨0, rfl, Or.inr ⟨rfl, rfl⟩⟩
        rintro _ w rest ⟨rfl, e, he⟩
        exact ⟨e, he.value_eq, Or.inl he⟩
      refine reads_fraction.bind fun frac => hexp.bind fun w => reads_pure ?_
      rintro rest b ⟨e, hvalue, he⟩ _ ⟨rfl, places, hplaces⟩
      obtain ⟨hfilter, hdigits⟩ := hplaces.filter_eq
      exact ⟨places, e, hfilter, hdigits, hvalue, Or.inl ⟨b, hplaces, he⟩⟩
  refine reads_decimalInteger.bind fun whole => hparts.bind fun parts => reads_pure ?_
  rintro rest a ⟨places, e, hfrac, hplaces, hexp, hcases⟩ _ ⟨rfl, negative, ds, hwhole⟩
  obtain ⟨mid, hsign, hdigits, -⟩ := id hwhole
  obtain ⟨v, hv, hfilter, hds⟩ := signed_of_digits hsign hdigits
  rw [floatOf_eq hv hfilter hds hfrac hplaces hexp]
  rcases hcases with ⟨b, hfraction, he⟩ | ⟨rfl, he⟩
  · exact .decimal hwhole (Or.inl ⟨hfraction, he⟩)
  · exact .decimal (b := a) hwhole (Or.inr ⟨rfl, he⟩)

theorem reads_plainFloat : Reads plainFloat Spec.Float := by
  refine (reads_ahead _).bind fun x => ?_
  split
  · exact reads_fail.commit
  · refine reads_number.mono ?_
    rintro mid y rest hy _ rfl
    exact hy

theorem reads_infinity : Reads infinity fun cs x rest =>
    x = .infinite false ∧ cs = 'i' :: 'n' :: 'f' :: rest :=
  (reads_word "inf").bind fun _ => reads_pure fun _ _ h => ⟨rfl, h⟩

theorem reads_notANumber : Reads notANumber fun cs x rest =>
    x = .nan ∧ cs = 'n' :: 'a' :: 'n' :: rest :=
  (reads_word "nan").bind fun _ => reads_pure fun _ _ h => ⟨rfl, h⟩

theorem reads_specialFloat : Reads specialFloat Spec.Float := by
  have hspecial : Reads (orElse infinity notANumber) fun cs x rest =>
      (x = .infinite false ∧ cs = 'i' :: 'n' :: 'f' :: rest) ∨
        (x = .nan ∧ cs = 'n' :: 'a' :: 'n' :: rest) :=
    (reads_infinity.mono fun _ _ _ h => Or.inl h).orElse
      (reads_notANumber.mono fun _ _ _ h => Or.inr h)
  refine reads_sign.bind fun sign => hspecial.bind fun x => ?_
  split
  · apply reads_pure
    rintro rest _ (⟨-, rfl⟩ | ⟨h, -⟩) cs hsign
    · exact .infinite hsign
    · cases h
  · rename_i hx
    apply reads_pure
    rintro rest _ (⟨h, -⟩ | ⟨rfl, rfl⟩) cs hsign
    · exact absurd h (hx false)
    · exact .nan hsign

theorem reads_float : Reads float Spec.Float :=
  (reads_plainFloat.orElse reads_specialFloat).labelled _

/-! ### Dates and times -/

theorem reads_field (count low high : Nat) : Reads (field count low high)
    fun cs n rest => Spec.Field count low high cs n rest := by
  refine (reads_exactly count isDigit).check ?_
  rintro cs ds rest n ⟨hcs, hlength, hds⟩ hn
  have hdigits : ∀ d ∈ ds, Spec.IsDigit d := fun d hd => isDigit_iff.1 (hds d hd)
  have hvalue : ds.foldl (fun n d => n * 10 + (d.toNat - 48)) 0 = Spec.number 10 ds := by
    rw [Spec.number_eq_foldl]
    apply List.foldl_ext
    intro n d hd
    rw [Spec.digit, if_pos (hdigits d hd).2]
    rfl
  simp only [hvalue] at hn
  split at hn
  · rename_i hrange
    cases hn
    exact ⟨ds, hcs, hlength, hdigits, rfl, hrange⟩
  · cases hn

theorem reads_date : Reads date fun cs _ rest => Spec.Date cs rest := by
  have hday (year month : Nat) : Reads ((field 2 1 31).check fun day =>
      if day ≤ daysIn year month then .ok day else .error outOfRange) fun cs day rest =>
        Spec.Field 2 1 31 cs day rest ∧ day ≤ daysIn year month := by
    refine (reads_field 2 1 31).check ?_
    intro cs day rest b hfield hb
    split at hb
    · rename_i hle
      cases hb
      exact ⟨hfield, hle⟩
    · cases hb
  refine (reads_field 4 0 9999).bind fun year => (reads_word "-").bind fun _ =>
    ((reads_field 2 1 12).bind fun month => (reads_word "-").bind fun _ =>
      (hday year month).bind fun day => reads_pure ?_).commit
  rintro rest b ⟨hb, hle⟩ _ rfl a hmonth _ rfl cs hyear
  exact ⟨year, month, day, a, b, hyear, hmonth, hb, hle⟩

theorem reads_time : Reads time fun cs _ rest => Spec.Time cs rest := by
  have hfraction : Reads (attempt (do word "."; takeWhile₁ isDigit)) fun cs _ rest =>
      cs = rest ∨ ∃ ds, ds ≠ [] ∧ (∀ d ∈ ds, Spec.IsDigit d) ∧ cs = '.' :: ds ++ rest := by
    refine Reads.attempt (G := fun cs ds rest => ds ≠ [] ∧ (∀ d ∈ ds, Spec.IsDigit d) ∧
      cs = '.' :: ds ++ rest) ?_ (fun _ ds _ h => Or.inr ⟨ds, h⟩) fun _ => Or.inl rfl
    refine (reads_word ".").bind fun _ => (reads_takeWhile₁ isDigit).mono ?_
    rintro mid ds rest ⟨rfl, hne, hds⟩ cs hcs
    exact ⟨hne, fun d hd => isDigit_iff.1 (hds d hd), hcs⟩
  refine (reads_field 2 0 23).bind fun hour => (reads_word ":").bind fun _ =>
    ((reads_field 2 0 59).bind fun minute => (reads_word ":").bind fun _ =>
      (reads_field 2 0 60).bind fun second => hfraction.bind fun _ => reads_pure ?_).commit
  rintro rest c hc b hb _ rfl a ha _ rfl cs hhour
  exact ⟨hour, minute, second, a, b, c, hhour, ha, hb, hc⟩

theorem reads_zone : Reads zone fun cs _ rest => Spec.Offset cs rest := by
  have hutc : Reads (do let _ ← char fun c => c = 'Z' || c = 'z') fun cs _ rest =>
      Spec.Offset cs rest := by
    refine (reads_char _).bind fun c => reads_pure ?_
    rintro rest cs ⟨hcs, hc⟩
    have hc : c = 'Z' ∨ c = 'z' := by simpa using hc
    rcases hc with rfl | rfl
    · exact Or.inl hcs
    · exact Or.inr (Or.inl hcs)
  refine (hutc.orElse ?_).labelled _
  refine (reads_char _).bind fun sign => ((reads_field 2 0 23).bind fun hour =>
    (reads_word ":").bind fun _ => (reads_field 2 0 59).bind fun minute => reads_pure ?_).commit
  rintro rest b hb _ rfl a ha cs ⟨hcs, hsign⟩
  have hsign : sign = '+' ∨ sign = '-' := by simpa using hsign
  exact Or.inr (Or.inr ⟨sign, hour, minute, a, b, hsign, hcs, ha, hb⟩)

theorem reads_datetime : Reads datetime fun cs _ rest => Spec.Datetime cs rest := by
  have hzone : Reads (attempt zone) fun cs _ rest => cs = rest ∨ Spec.Offset cs rest :=
    reads_zone.attempt (fun _ _ _ h => Or.inr h) fun _ => Or.inl rfl
  have htime : Reads (attempt do
      let _ ← char fun c => c = 'T' || c = 't' || c = ' '
      time
      let _ ← attempt zone) fun a _ rest => a = rest ∨ ∃ t b c, t ∈ ['T', 't', ' '] ∧ a = t :: b ∧
        Spec.Time b c ∧ (c = rest ∨ Spec.Offset c rest) := by
    refine Reads.attempt (G := fun a _ rest => ∃ t b c, t ∈ ['T', 't', ' '] ∧ a = t :: b ∧
        Spec.Time b c ∧ (c = rest ∨ Spec.Offset c rest)) ?_ (fun _ _ _ h => Or.inr h) fun _ => Or.inl rfl
    refine (reads_char _).bind fun t => reads_time.bind fun _ => hzone.bind fun _ => reads_pure ?_
    rintro rest c hc b hb a ⟨ha, ht⟩
    exact ⟨t, b, c, by simpa [or_assoc] using ht, ha, hb, hc⟩
  refine Reads.orElse (Reads.labelled ?_ _) ((reads_time.mono fun _ _ _ h => Or.inr h).labelled _)
  refine reads_date.bind fun _ => htime.bind fun _ => reads_pure ?_
  intro rest a ha cs hcs
  exact Or.inl ⟨a, hcs, ha⟩

end TypeScriptRepl.Toml
