import Mathlib
import TypeScriptRepl.Proofs.Report.EditDistance
import TypeScriptRepl.Report.Diagnostic

/-! The words that are suggested for a misspelled one: the nearest candidates, in their own order. -/
namespace TypeScriptRepl.Report

section

variable {α : Type} {le : α → α → Bool} {R : α → α → Prop}

/-- Sorting leaves in their order those of which each may stand before the other. -/
theorem pairwise_mergeSort_of_pairwise (trans : ∀ a b c, le a b → le b c → le a c)
    (total : ∀ a b, le a b || le b a) {l : List α} (h : l.Pairwise R) :
    (l.mergeSort le).Pairwise fun a b => le a b ∧ (le b a → R a b) := by
  induction l with
  | nil => simp
  | cons a l ih =>
    obtain ⟨ha, hl⟩ := List.pairwise_cons.1 h
    obtain ⟨l₁, l₂, hcons, hrest, hbefore⟩ := List.mergeSort_cons trans total a l
    have hsorted := List.pairwise_mergeSort trans total (a :: l)
    have htail := ih hl
    have hmem : ∀ b ∈ l₁ ++ l₂, b ∈ l := by
      intro b hb
      rwa [← hrest, List.mem_mergeSort] at hb
    rw [hcons] at hsorted ⊢
    rw [hrest] at htail
    obtain ⟨h₁, h₂, h₁₂⟩ := List.pairwise_append.1 htail
    obtain ⟨-, hs₂, hs₁₂⟩ := List.pairwise_append.1 hsorted
    refine List.pairwise_append.2 ⟨h₁, List.pairwise_cons.2 ⟨fun b hb => ?_, h₂⟩, fun b hb c hc => ?_⟩
    · exact ⟨(List.pairwise_cons.1 hs₂).1 b hb, fun _ => ha b (hmem b (List.mem_append_right l₁ hb))⟩
    · rcases List.mem_cons.1 hc with rfl | hc
      · have hnot : le c b = false := by simpa using hbefore b hb
        exact ⟨hs₁₂ b hb c List.mem_cons_self, fun hcb => by simp [hnot] at hcb⟩
      · exact h₁₂ b hb c hc

end

def distanceFrom (word : String) (c : String × Nat) : Nat := editDistance word.toList c.1.toList

/-- A candidate is nearer to the word than another one, or as near and at an earlier place. -/
def Precedes (word : String) (c d : String × Nat) : Prop :=
  distanceFrom word c < distanceFrom word d ∨
    (distanceFrom word c = distanceFrom word d ∧ c.2 < d.2)

/-- The candidates, with their places, that are suggested within a distance of a word. -/
structure AreBest (word : String) (candidates : List String) (maxDistance : Nat)
    (best : List (String × Nat)) : Prop where
  atMostThree : best.length ≤ 3
  candidate : ∀ c ∈ best, candidates[c.2]? = some c.1
  near : ∀ c ∈ best, distanceFrom word c ≤ maxDistance
  ordered : best.Pairwise (Precedes word)
  complete : best.length < 3 →
    ∀ c, candidates[c.2]? = some c.1 → distanceFrom word c ≤ maxDistance → c ∈ best
  precedes : ∀ c, candidates[c.2]? = some c.1 → distanceFrom word c ≤ maxDistance → c ∉ best →
    ∀ b ∈ best, Precedes word b c

variable (word : String) (candidates : List String) (maxDistance : Nat)

def nearby : List (String × Nat) :=
  candidates.zipIdx.filter fun c => distanceFrom word c ≤ maxDistance

def ranked : List (String × Nat) :=
  (nearby word candidates maxDistance).mergeSort fun c d => distanceFrom word c ≤ distanceFrom word d

theorem map_nearby :
    (nearby word candidates maxDistance).map (fun c => (distanceFrom word c, c.1)) =
      candidates.filterMap fun c =>
        if editDistance word.toList c.toList ≤ maxDistance then
          some (editDistance word.toList c.toList, c)
        else none := by
  rw [nearby, ← List.filterMap_eq_map, List.filterMap_filter]
  conv => rhs; rw [← List.zipIdx_map_fst 0 candidates, List.filterMap_map]
  refine congrArg (List.filterMap · candidates.zipIdx) (funext fun c => ?_)
  by_cases hd : distanceFrom word c ≤ maxDistance
  · rw [if_pos (decide_eq_true hd)]
    exact (if_pos hd).symm
  · rw [if_neg (by simpa using hd)]
    exact (if_neg hd).symm

theorem suggest_eq_ranked :
    suggest word candidates maxDistance =
      ((ranked word candidates maxDistance).take maxSuggestions).map Prod.fst := by
  have hsort : (ranked word candidates maxDistance).map (fun c => (distanceFrom word c, c.1)) =
      ((nearby word candidates maxDistance).map fun c => (distanceFrom word c, c.1)).mergeSort
        fun x y => decide (x.1 ≤ y.1) :=
    List.map_mergeSort fun _ _ _ _ => rfl
  rw [map_nearby] at hsort
  unfold suggest
  dsimp only
  rw [← hsort, List.map_map, List.map_take]
  rfl

theorem mem_ranked {c : String × Nat} :
    c ∈ ranked word candidates maxDistance ↔
      candidates[c.2]? = some c.1 ∧ distanceFrom word c ≤ maxDistance := by
  rw [ranked, List.mem_mergeSort, nearby, List.mem_filter, List.mem_zipIdx_iff_getElem?,
    decide_eq_true_iff]

theorem pairwise_ranked : (ranked word candidates maxDistance).Pairwise (Precedes word) := by
  have hplaces : candidates.zipIdx.Pairwise fun c d => c.2 < d.2 := by
    have hrange : (candidates.zipIdx.map Prod.snd).Pairwise (· < ·) := by
      rw [List.zipIdx_map_snd]
      exact List.pairwise_lt_range'
    exact List.pairwise_map.1 hrange
  let le (c d : String × Nat) : Bool := decide (distanceFrom word c ≤ distanceFrom word d)
  have htrans (a b c : String × Nat) (hab : le a b) (hbc : le b c) : le a c := by
    rw [decide_eq_true_iff] at hab hbc ⊢
    omega
  have htotal (a b : String × Nat) : le a b || le b a := by
    rw [Bool.or_eq_true, decide_eq_true_iff, decide_eq_true_iff]
    omega
  have hsorted := pairwise_mergeSort_of_pairwise htrans htotal
    (hplaces.filter fun c => decide (distanceFrom word c ≤ maxDistance))
  refine hsorted.imp fun {c d} h => ?_
  obtain ⟨hle, htie⟩ := h
  rw [decide_eq_true_iff] at hle htie
  rcases Nat.lt_or_eq_of_le hle with hlt | heq
  · exact Or.inl hlt
  · exact Or.inr ⟨heq, htie (Nat.le_of_eq heq.symm)⟩

theorem areBest_ranked :
    AreBest word candidates maxDistance ((ranked word candidates maxDistance).take maxSuggestions) := by
  have hsplit := List.take_append_drop maxSuggestions (ranked word candidates maxDistance)
  have hpairwise := pairwise_ranked word candidates maxDistance
  rw [← hsplit] at hpairwise
  obtain ⟨htake, -, hacross⟩ := List.pairwise_append.1 hpairwise
  constructor
  · exact List.length_take_le _ _
  · intro c hc
    exact ((mem_ranked ..).1 (List.mem_of_mem_take hc)).1
  · intro c hc
    exact ((mem_ranked ..).1 (List.mem_of_mem_take hc)).2
  · exact htake
  · intro hlength c hc hd
    rw [List.length_take] at hlength
    rw [List.take_of_length_le (by unfold maxSuggestions at *; omega)]
    exact (mem_ranked ..).2 ⟨hc, hd⟩
  · intro c hc hd hnot b hb
    have hmem := (mem_ranked ..).2 ⟨hc, hd⟩
    rw [← hsplit] at hmem
    exact hacross b hb c ((List.mem_append.1 hmem).resolve_left hnot)

namespace Diagnostic

theorem corrections_eq (found : String) :
    corrections found =
      if String.ofList (found.toList.takeWhile Char.isAlpha) = "" ∨
          String.ofList (found.toList.takeWhile Char.isAlpha) ∈ clauseWords then []
      else suggest (String.ofList (found.toList.takeWhile Char.isAlpha)) clauseWords 2 := by
  have hletter : (fun c : Char => ('a' ≤ c && c ≤ 'z') || ('A' ≤ c && c ≤ 'Z')) = Char.isAlpha := by
    funext c
    rw [Char.isAlpha, Char.isUpper, Char.isLower, Bool.or_comm, Bool.decide_and]
    rfl
  rw [← hletter]
  unfold corrections
  dsimp only
  refine ite_congr (propext ?_) (fun _ => rfl) fun _ => rfl
  rw [Bool.or_eq_true, String.isEmpty_iff, List.contains_iff_mem]
  exact Iff.rfl

end Diagnostic

/-- The suggestions for a word are the best ones that its candidates hold, by the least number of
edits that lead to them; those for text that fits nowhere are the suggestions for the letters that it
begins with, unless these are a word of a clause themselves. -/
theorem suggestions_are_best :
    (∀ word c, IsLeast {n | Edits n word.toList c.1.toList} (distanceFrom word c)) ∧
    (∀ word candidates maxDistance, ∃ best, AreBest word candidates maxDistance best ∧
      suggest word candidates maxDistance = best.map Prod.fst) ∧
    ∀ found line column source file,
      let letters := String.ofList (found.toList.takeWhile Char.isAlpha)
      (Diagnostic.ofError (.unexpected found line column) source file).suggestions =
        if letters = "" ∨ letters ∈ Diagnostic.clauseWords then []
        else (suggest letters Diagnostic.clauseWords 2).map fun w => "did you mean '" ++ w ++ "'?" := by
  refine ⟨fun word c => ?_, fun word candidates maxDistance => ?_,
    fun found line column source file => ?_⟩
  · exact isLeast_editDistance word.toList c.1.toList
  · exact ⟨_, areBest_ranked word candidates maxDistance, suggest_eq_ranked word candidates maxDistance⟩
  · have hsuggestions : (Diagnostic.ofError (.unexpected found line column) source file).suggestions =
        (Diagnostic.corrections found).map fun w => "did you mean '" ++ w ++ "'?" := by
      rw [Diagnostic.ofError]
      rfl
    dsimp only
    rw [hsuggestions, Diagnostic.corrections_eq]
    split
    · rfl
    · rfl

/-- A word that ends too early, and words that are as near as this one. -/
example : suggest "fro" ["for", "from", "fr", "fxo", "f"] 2 = ["from", "fr", "fxo"] := by cbv

end TypeScriptRepl.Report
