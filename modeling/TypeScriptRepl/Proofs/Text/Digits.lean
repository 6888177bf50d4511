import Mathlib.Data.List.Basic
import Mathlib.Tactic.IntervalCases

/-!
Numbers as they are written: with digits only, a minus sign in front, and no zero that is not needed.
-/
namespace TypeScriptRepl.Text

theorem not_mem_toDigits {c : Char} (h : c.isDigit = false) (n : Nat) : c ∉ Nat.toDigits 10 n := by
  intro hc
  rw [Nat.isDigit_of_mem_toDigits (by decide) (by decide) hc] at h
  cases h

/-- A number is written with digits, after a minus sign or after nothing. -/
theorem not_mem_toString {c : Char} (hd : c.isDigit = false) (hm : c ≠ '-') (t : Int) :
    c ∉ (toString t).toList := by
  have digits (n : Nat) : c ∉ n.repr.toList := by
    rw [Nat.toList_repr]
    exact not_mem_toDigits hd n
  cases t with
  | ofNat n => exact digits n
  | negSucc n =>
    have htext : (toString (Int.negSucc n)).toList = '-' :: (n + 1).repr.toList :=
      String.toList_append
    rw [htext, List.mem_cons, not_or]
    exact ⟨hm, digits (n + 1)⟩

theorem head?_toDigits {n : Nat} (h : 0 < n) : (Nat.toDigits 10 n).head? ≠ some '0' := by
  induction n using Nat.strongRecOn with
  | ind n ih =>
    by_cases hn : n < 10
    · rw [Nat.toDigits_of_lt_base hn]
      interval_cases n <;> decide
    · rw [Nat.toDigits_of_base_le (by decide) (by omega), List.head?_append_of_ne_nil _ Nat.toDigits_ne_nil]
      exact ih (n / 10) (by omega) (by omega)

end TypeScriptRepl.Text
