import Mathlib
import PropCalc.Proofs.Polynomial
import PropCalc.Proofs.NormalForms

namespace PropCalc

namespace Zhegalkin

open TruthTable

/-- The exclusive or of the entries of `r` at the indices whose set bits are all set in `k`. -/
def subsetParity (r : List Bool) (k : Nat) : Bool :=
  parity ((r.zipIdx.filter fun p => p.2 &&& k == p.2).map Prod.fst)

theorem land_eq_self_iff {i k : Nat} :
    i &&& k = i ↔ ∀ b, i.testBit b = true → k.testBit b = true := by
  constructor
  · intro h b hb
    rw [← h, Nat.testBit_land, Bool.and_eq_true] at hb
    exact hb.2
  · intro h
    apply Nat.eq_of_testBit_eq
    intro b
    rw [Nat.testBit_land]
    cases hb : i.testBit b
    · rfl
    · simp [h b hb]

theorem below_bitsOf_iff {n i k : Nat} :
    below (bitsOf n i) (bitsOf n k) = true ↔ ∀ b < n, i.testBit b = true → k.testBit b = true := by
  induction n with
  | zero => simp [bitsOf, below]
  | succ n ih =>
    rw [bitsOf_succ, bitsOf_succ, below, Bool.and_eq_true, ih]
    constructor
    · rintro ⟨htop, hlow⟩ b hb hib
      rcases Nat.lt_succ_iff_lt_or_eq.mp hb with hb | rfl
      · exact hlow b hb hib
      · simpa [hib] using htop
    · intro h
      refine ⟨?_, fun b hb => h b (by omega)⟩
      cases hi : i.testBit n
      · rfl
      · simp [h n (by omega) hi]

theorem below_bitsOf {n i : Nat} (hi : i < 2 ^ n) (k : Nat) :
    below (bitsOf n i) (bitsOf n k) = (i &&& k == i) := by
  rw [Bool.eq_iff_iff, below_bitsOf_iff, beq_iff_eq, land_eq_self_iff]
  constructor
  · intro h b hb
    by_cases hbn : b < n
    · exact h b hbn hb
    · -- bits of `i` at or above `n` are clear
      have hlt : i < 2 ^ b := lt_of_lt_of_le hi (Nat.pow_le_pow_right (by decide) (by omega))
      rw [Nat.testBit_lt_two_pow hlt] at hb
      cases hb
  · exact fun h b _ => h b

theorem mobius_bitsOf (n : Nat) (f : List Bool → Bool) (k : Nat) :
    mobius n f (bitsOf n k) = subsetParity (column n f) k := by
  rw [subsetParity, zipIdx_column, List.filter_map, List.map_map, parity_filter, mobius, xorSum,
    column]
  congr 1
  refine List.map_congr_left fun i hi => ?_
  simp only [Function.comp_apply]
  rw [below_bitsOf (List.mem_range.mp hi)]

theorem column_congr {n : Nat} {f g : List Bool → Bool} (h : ∀ x, x.length = n → f x = g x) :
    column n f = column n g :=
  List.map_congr_left fun i _ => h _ (length_bitsOf n i)

theorem column_getD {n : Nat} {P : List Bool} (hP : P.length = 2 ^ n) :
    column n (fun x => P.getD (valueOfBits x) false) = P := by
  refine List.ext_getElem (by simp [hP]) fun i h₁ h₂ => ?_
  have hi : i < 2 ^ n := by simpa using h₁
  simp [column, valueOfBits_bitsOf hi, h₂]

theorem coefficients_of_length_pow {n : Nat} {P : List Bool} (hP : P.length = 2 ^ n) :
    coefficients P = (List.range (2 ^ n)).map (subsetParity P) ∧ coefficients (coefficients P) = P := by
  set g : List Bool → Bool := fun x => P.getD (valueOfBits x) false
  have hg : column n g = P := column_getD hP
  constructor
  · calc coefficients P = column n (mobius n g) := by rw [← coefficients_column, hg]
      _ = (List.range (2 ^ n)).map (subsetParity P) :=
        List.map_congr_left fun k _ => by rw [mobius_bitsOf, hg]
  · conv_lhs => rw [← hg]
    rw [coefficients_column, coefficients_column, column_congr fun x hx => mobius_mobius n g hx, hg]

theorem coefficients_take (l : List Bool) (m : Nat) :
    coefficients (l.take m) = (coefficients l).take m := by
  rw [coefficients_eq_leading, coefficients_eq_leading l, ← List.map_take, List.take_range,
    List.length_take]
  refine List.map_congr_left fun j hj => ?_
  have hj : j < (l.take m).length := by simpa using hj
  conv_rhs => rw [← List.take_append_drop m l]
  exact (headD_iterate_append hj).symm

theorem subsetParity_take {r : List Bool} {m k : Nat} (hk : k < m) :
    subsetParity (r.take m) k = subsetParity r k := by
  conv_rhs => rw [← List.take_append_drop m r]
  have hnil : ((r.drop m).zipIdx (0 + (r.take m).length)).filter (fun p => p.2 &&& k == p.2) = [] := by
    refine List.filter_eq_nil_iff.mpr fun ⟨x, i⟩ hp => ?_
    have hi := List.mem_zipIdx hp
    simp only [List.length_take, List.length_drop, Nat.zero_add] at hi
    have hland : i &&& k ≤ k := Nat.and_le_right
    simp only [beq_iff_eq]
    omega
  rw [subsetParity, subsetParity, List.zipIdx_append, List.filter_append, hnil,
    List.append_nil]

/-- Entry `k` of the coefficient list is the exclusive or of the column over the indices whose set
bits are among those of `k`, and taking coefficients twice gives the column back. -/
theorem coefficients_subsetParity_involutive (r : List Bool) :
    coefficients r = (List.range r.length).map (subsetParity r) ∧ coefficients (coefficients r) = r := by
  -- `r` is the front of a column of length `2 ^ r.length`, padded with zeros
  set P := r ++ List.replicate (2 ^ r.length - r.length) false
  have hP : P.length = 2 ^ r.length := by
    have := @Nat.lt_two_pow_self r.length
    simp only [P, List.length_append, List.length_replicate]
    omega
  have hr : P.take r.length = r := List.take_left' rfl
  obtain ⟨hcoef, hinv⟩ := coefficients_of_length_pow hP
  constructor
  · calc coefficients r = (coefficients P).take r.length := by rw [← coefficients_take, hr]
      _ = (List.range r.length).map (subsetParity P) := by
        rw [hcoef, ← List.map_take, List.take_range, Nat.min_eq_left Nat.lt_two_pow_self.le]
      _ = (List.range r.length).map (subsetParity r) :=
        List.map_congr_left fun k hk => by rw [← subsetParity_take (List.mem_range.mp hk), hr]
  · conv_lhs => rw [← hr]
    rw [coefficients_take, coefficients_take, hinv, hr]

-- the column of `x ∨ y` is its own coefficient list: `x ∨ y = y ⊕ x ⊕ x ∧ y`
example : coefficients [false, true, true, true] = [false, true, true, true] := by decide +kernel

end Zhegalkin

end PropCalc
