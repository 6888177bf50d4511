import TypeScriptRepl.Text.Slice

/-! Slices of a text that is put together from pieces are the pieces. -/
namespace TypeScriptRepl.Text

@[simp] theorem byteLength_nil : byteLength [] = 0 := rfl

@[simp] theorem byteLength_cons (c : Char) (cs : List Char) :
    byteLength (c :: cs) = c.utf8Size + byteLength cs := by
  have h (k : Nat) (ds : List Char) :
      ds.foldl (fun n c => n + c.utf8Size) k = k + byteLength ds := by
    induction ds generalizing k with
    | nil => rfl
    | cons d ds ih =>
      rw [byteLength, List.foldl_cons, List.foldl_cons, ih, ih]
      omega
  rw [byteLength, List.foldl_cons, h]
  omega

theorem dropBytes?_byteLength (before cs : List Char) :
    dropBytes? (before ++ cs) (byteLength before) = some cs := by
  induction before with
  | nil => cases cs <;> rfl
  | cons c before ih =>
    have hc := c.utf8Size_pos
    obtain ⟨n, hn⟩ : ∃ n, byteLength (c :: before) = n + 1 :=
      ⟨byteLength (c :: before) - 1, by rw [byteLength_cons]; omega⟩
    have hb : n + 1 - c.utf8Size = byteLength before := by
      rw [byteLength_cons] at hn
      omega
    rw [hn, List.cons_append, dropBytes?, hb, ih, if_pos]
    rw [byteLength_cons] at hn
    omega

theorem takeBytes?_byteLength (cs after : List Char) :
    takeBytes? (cs ++ after) (byteLength cs) = some cs := by
  induction cs with
  | nil => cases after <;> rfl
  | cons c cs ih =>
    have hc := c.utf8Size_pos
    obtain ⟨n, hn⟩ : ∃ n, byteLength (c :: cs) = n + 1 :=
      ⟨byteLength (c :: cs) - 1, by rw [byteLength_cons]; omega⟩
    have hb : n + 1 - c.utf8Size = byteLength cs := by
      rw [byteLength_cons] at hn
      omega
    rw [hn, List.cons_append, takeBytes?, hb, ih, if_pos]
    · rfl
    rw [byteLength_cons] at hn
    omega

theorem slice?_byteLength (before cs after : List Char) :
    slice? (before ++ cs ++ after) (byteLength before) (byteLength before + byteLength cs) =
      some cs := by
  have hd := dropBytes?_byteLength before (cs ++ after)
  rw [slice?, if_pos (by omega), List.append_assoc, hd, Option.bind_some, Nat.add_sub_cancel_left,
    takeBytes?_byteLength]

end TypeScriptRepl.Text
