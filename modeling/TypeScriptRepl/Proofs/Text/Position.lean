import Mathlib.Data.List.DropRight
import TypeScriptRepl.Program.Basic
import TypeScriptRepl.Proofs.Text.Slice
import TypeScriptRepl.Syntax.Node

/-! Places in a text, as it is cut in pieces there: by bytes, and by lines and columns. -/
namespace TypeScriptRepl

open Syntax Text

namespace Text

theorem byteLength_append (as bs : List Char) :
    byteLength (as ++ bs) = byteLength as + byteLength bs := by
  induction as with
  | nil => rw [List.nil_append, byteLength_nil, Nat.zero_add]
  | cons a as ih => rw [List.cons_append, byteLength_cons, ih, byteLength_cons, Nat.add_assoc]

theorem length_le_byteLength (cs : List Char) : cs.length ≤ byteLength cs := by
  induction cs with
  | nil => exact Nat.le_refl 0
  | cons c cs ih =>
    have hc := c.utf8Size_pos
    rw [List.length_cons, byteLength_cons]
    omega

theorem byteLength_eq_zero {cs : List Char} (h : byteLength cs = 0) : cs = [] := by
  cases cs with
  | nil => rfl
  | cons c cs =>
    have hc := c.utf8Size_pos
    rw [byteLength_cons] at h
    omega

theorem dropBytes?_eq_some {cs rest : List Char} {n : Nat} (h : dropBytes? cs n = some rest) :
    ∃ before, cs = before ++ rest ∧ byteLength before = n := by
  induction cs generalizing n with
  | nil =>
    cases n with
    | zero => exact ⟨[], by simpa [dropBytes?] using h, rfl⟩
    | succ n => cases h
  | cons c cs ih =>
    cases n with
    | zero => exact ⟨[], by simpa [dropBytes?] using h, rfl⟩
    | succ n =>
      rw [dropBytes?] at h
      split at h
      case isTrue hc =>
        obtain ⟨before, rfl, hb⟩ := ih h
        refine ⟨c :: before, rfl, ?_⟩
        rw [byteLength_cons, hb]
        omega
      case isFalse => cases h

theorem takeBytes?_eq_some {cs piece : List Char} {n : Nat} (h : takeBytes? cs n = some piece) :
    ∃ after, cs = piece ++ after ∧ byteLength piece = n := by
  induction cs generalizing n piece with
  | nil =>
    cases n with
    | zero => exact ⟨[], by simpa [takeBytes?] using h, by simp_all [takeBytes?]⟩
    | succ n => cases h
  | cons c cs ih =>
    cases n with
    | zero =>
      obtain rfl : [] = piece := by simpa [takeBytes?] using h
      exact ⟨c :: cs, rfl, rfl⟩
    | succ n =>
      rw [takeBytes?] at h
      split at h
      case isTrue hc =>
        obtain ⟨piece, hp, rfl⟩ := Option.map_eq_some_iff.1 h
        obtain ⟨after, rfl, hb⟩ := ih hp
        refine ⟨after, rfl, ?_⟩
        rw [byteLength_cons, hb]
        omega
      case isFalse => cases h

/-- What a slice is: a piece of the text, between the bytes before it and those after. -/
theorem slice?_eq_some_iff {cs piece : List Char} {start stop : Nat} :
    slice? cs start stop = some piece ↔ ∃ before after, cs = before ++ piece ++ after ∧
      start = byteLength before ∧ stop = byteLength before + byteLength piece := by
  constructor
  · intro h
    rw [slice?] at h
    split at h
    case isTrue hs =>
      obtain ⟨rest, hr, hp⟩ := Option.bind_eq_some_iff.1 h
      obtain ⟨before, rfl, hb⟩ := dropBytes?_eq_some hr
      obtain ⟨after, rfl, hl⟩ := takeBytes?_eq_some hp
      exact ⟨before, after, (List.append_assoc ..).symm, hb.symm, by omega⟩
    case isFalse => cases h
  · rintro ⟨before, after, rfl, rfl, rfl⟩
    exact slice?_byteLength before piece after

theorem slice?_append_left {cs ds : List Char} {start stop : Nat} (h : stop ≤ byteLength cs) :
    slice? (cs ++ ds) start stop = slice? cs start stop := by
  ext piece
  rw [slice?_eq_some_iff, slice?_eq_some_iff]
  constructor
  · rintro ⟨before, after, he, hstart, hstop⟩
    rcases List.append_eq_append_iff.1 he with ⟨rest, hp, -⟩ | ⟨rest, hc, -⟩
    · obtain rfl : rest = [] := byteLength_eq_zero (by
        have hl := congrArg byteLength hp
        simp only [byteLength_append] at hl
        omega)
      exact ⟨before, [], by rw [hp, List.append_nil, List.append_nil], hstart, hstop⟩
    · exact ⟨before, rest, hc, hstart, hstop⟩
  · rintro ⟨before, after, rfl, hstart, hstop⟩
    exact ⟨before, after ++ ds, List.append_assoc .., hstart, hstop⟩

theorem slice?_append_right {cs ds : List Char} {start stop : Nat} (h : byteLength cs ≤ start)
    (hs : start ≤ stop) : slice? (cs ++ ds) start stop =
      slice? ds (start - byteLength cs) (stop - byteLength cs) := by
  ext piece
  rw [slice?_eq_some_iff, slice?_eq_some_iff]
  constructor
  · rintro ⟨before, after, he, hstart, hstop⟩
    rw [List.append_assoc] at he
    rcases List.append_eq_append_iff.1 he with ⟨rest, hb, hd⟩ | ⟨rest, hc, hp⟩
    · have hl := congrArg byteLength hb
      rw [byteLength_append] at hl
      exact ⟨rest, after, by rw [hd, List.append_assoc], by omega, by omega⟩
    · have hl := congrArg byteLength hc
      rw [byteLength_append] at hl
      obtain rfl : rest = [] := byteLength_eq_zero (by omega)
      rw [byteLength_nil] at hl
      exact ⟨[], after, hp.symm, by rw [byteLength_nil]; omega, by rw [byteLength_nil]; omega⟩
  · rintro ⟨before, after, rfl, hstart, hstop⟩
    refine ⟨cs ++ before, after, by simp only [List.append_assoc], ?_, ?_⟩
    · rw [byteLength_append]
      omega
    · rw [byteLength_append]
      omega

def lastLine (cs : List Char) : List Char := cs.rtakeWhile (· ≠ '\n')

end Text

/-- A node stands at a piece of the text: its range has the bytes, the row and the byte column. -/
def Syntax.Range.Covers (text : List Char) (r : Range) (piece : List Char) : Prop :=
  ∃ before after, text = before ++ piece ++ after ∧
    r.start = byteLength before ∧ r.stop = byteLength before + byteLength piece ∧
    r.row = before.count '\n' ∧ r.column = byteLength (lastLine before)

/-- A span has the bytes of a piece of the text, with the line and the column of its first character,
both counted from 1. -/
def Span.Covers (text : List Char) (s : Span) (piece : List Char) : Prop :=
  ∃ before after, text = before ++ piece ++ after ∧
    s.start = byteLength before ∧ s.stop = byteLength before + byteLength piece ∧
    s.line = before.count '\n' + 1 ∧ s.column = (lastLine before).length + 1

end TypeScriptRepl
