import Mathlib
import PropCalc.Proofs.PrimeImplicants

namespace PropCalc

namespace QuineMcCluskey

open Implicant

/-- The implicants that round `k + 1` starts from: `start` for the first round, then what each
round glued. -/
def stage (width : Nat) (start : List Implicant) : Nat → List Implicant
  | 0 => start
  | k + 1 => (round (stage width start k) width).1

def Uniform (width d : Nat) (current : List Implicant) : Prop :=
  ∀ a ∈ current, a.freeCount = d ∧ a.length ≤ width

theorem freeCount_length_of_glue {a b c : Implicant} (h : a.glue b = some c) :
    c.freeCount = a.freeCount + 1 ∧ c.length = a.length := by
  obtain ⟨p, q, v, rfl, -, rfl⟩ := glue_eq_some_iff.mp h
  exact ⟨freeCount_free p q v, by simp⟩

theorem exists_glue_of_mem_round {current : List Implicant} {width : Nat}
    (hw : ∀ a ∈ current, a.ones ≤ width) {c : Implicant} (hc : c ∈ (round current width).1) :
    ∃ a ∈ current, ∃ b ∈ current, a.glue b = some c := by
  simp only [round, mem_sortSet, List.mem_flatMap, List.mem_filterMap, mem_groups hw] at hc
  obtain ⟨k, -, a, ⟨ha, -⟩, b, ⟨hb, -⟩, hglue⟩ := hc
  exact ⟨a, ha, b, hb, hglue⟩

theorem Uniform.round {width d : Nat} {current : List Implicant} (h : Uniform width d current) :
    Uniform width (d + 1) (round current width).1 := by
  have hw : ∀ a ∈ current, a.ones ≤ width := fun a ha => (ones_le_length a).trans (h a ha).2
  intro c hc
  obtain ⟨a, ha, b, -, hglue⟩ := exists_glue_of_mem_round hw hc
  obtain ⟨hfree, hlen⟩ := freeCount_length_of_glue hglue
  obtain ⟨hda, hla⟩ := h a ha
  exact ⟨by omega, by omega⟩

theorem Uniform.eq_nil {width d : Nat} {current : List Implicant} (h : Uniform width d current)
    (hd : width < d) : current = [] := by
  refine List.eq_nil_iff_forall_not_mem.mpr fun a ha => ?_
  obtain ⟨hda, hla⟩ := h a ha
  have := freeCount_le_length a
  omega

theorem uniform_minterms (M : List (List Bool)) :
    Uniform ((M.map List.length).foldl max 0) 0 (sortSet (M.map ofValues)) := by
  intro a ha
  obtain ⟨y, hy, rfl⟩ := List.mem_map.mp (mem_sortSet.mp ha)
  refine ⟨freeCount_ofValues y, ?_⟩
  rw [ofValues, List.length_map]
  exact (le_foldl_max _ 0).2 _ (List.mem_map_of_mem hy)

theorem uniform_stage {width : Nat} {start : List Implicant} (h : Uniform width 0 start) :
    ∀ k, Uniform width k (stage width start k)
  | 0 => h
  | k + 1 => (uniform_stage h k).round

theorem rounds_nil (width fuel r : Nat) (primes : List Implicant) :
    rounds width fuel r [] primes = pure primes := by
  cases fuel <;> rfl

theorem rounds_congr {width : Nat} :
    ∀ {fuel₁ fuel₂ r d : Nat} {current primes : List Implicant}, Uniform width d current →
      width < d + fuel₁ → width < d + fuel₂ →
      rounds width fuel₁ r current primes = rounds width fuel₂ r current primes
  | fuel₁, fuel₂, r, d, current, primes, h, h₁, h₂ => by
    by_cases hnil : current = []
    · rw [hnil, rounds_nil, rounds_nil]
    -- a non-empty round is below the width, so both budgets allow one more round
    obtain ⟨f₁, rfl⟩ : ∃ f, fuel₁ = f + 1 := Nat.exists_eq_succ_of_ne_zero fun e =>
      hnil (h.eq_nil (by omega))
    obtain ⟨f₂, rfl⟩ : ∃ f, fuel₂ = f + 1 := Nat.exists_eq_succ_of_ne_zero fun e =>
      hnil (h.eq_nil (by omega))
    have hne : current.isEmpty = false := List.isEmpty_eq_false_iff.mpr hnil
    have hnext := @rounds_congr width f₁ f₂ (r + 1) (d + 1) (round current width).1
      (sortSet (primes ++ (round current width).2)) h.round (by omega) (by omega)
    simp only [rounds, hne, Bool.false_eq_true, if_false, hnext]

/-- The loop of the Quine–McCluskey method, over minterms of any lengths: round `k + 1` starts from
implicants with exactly `k` don't-cares, none is left after one round more than the longest
minterm has positions, and no larger round budget changes the run. -/
theorem primeImplicants_rounds_bounded (M : List (List Bool)) :
    (∀ k, ∀ a ∈ stage ((M.map List.length).foldl max 0) (sortSet (M.map ofValues)) k,
      a.freeCount = k) ∧
    stage ((M.map List.length).foldl max 0) (sortSet (M.map ofValues))
      ((M.map List.length).foldl max 0 + 1) = [] ∧
    ∀ fuel, (M.map List.length).foldl max 0 + 1 ≤ fuel →
      rounds ((M.map List.length).foldl max 0) fuel 1 (sortSet (M.map ofValues)) [] =
        primeImplicants M := by
  have hstage := uniform_stage (uniform_minterms M)
  refine ⟨fun k a ha => (hstage k a ha).1, (hstage _).eq_nil (by omega), fun fuel hfuel => ?_⟩
  exact rounds_congr (uniform_minterms M) (by omega) (by omega)

end QuineMcCluskey

end PropCalc
