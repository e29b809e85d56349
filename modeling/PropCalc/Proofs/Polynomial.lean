import Mathlib
import PropCalc.Proofs.Transform

namespace PropCalc

namespace Formula

/-- The conjunction of the listed variables, or `1` for none: a monomial. -/
def conjunction (vs : List Var) : Formula := (chain .and (vs.map var)).getD (const true)

theorem value_chain_xor {xs : List Formula} {f : Formula} (h : chain .xor xs = some f)
    (ρ : Var → Bool) : f.value ρ = Zhegalkin.parity (xs.map (·.value ρ)) := by
  cases xs with
  | nil => cases h
  | cons x xs =>
    cases h
    rw [value_foldl_bin, List.map_cons, Zhegalkin.parity_cons]
    generalize x.value ρ = b
    induction xs generalizing b with
    | nil => simp
    | cons y xs ih =>
      rw [List.foldl_cons, ih, List.map_cons, Zhegalkin.parity_cons]
      simp [Connective.apply]

end Formula

namespace Zhegalkin

open TruthTable

theorem results_tabulate (t : Formula) (vs : VarSet) :
    (tabulate t vs).results = column vs.length fun x => t.value (assign vs x) := by
  simp [results, tabulate, column, Nat.pow_eq]

theorem coefficients_tabulate (t : Formula) (vs : VarSet) :
    (tabulate t vs).coefficients = column vs.length (mobius vs.length fun x => t.value (assign vs x)) := by
  rw [TruthTable.coefficients, results_tabulate, coefficients_column]

theorem monomial_eq_conjunction (vs : VarSet) (i : Nat) :
    monomial vs i =
      Formula.conjunction ((vs.zipIdx.filter fun p => i.testBit (vs.length - 1 - p.2)).map Prod.fst) := by
  simp [monomial, Formula.conjunction, List.map_map, Function.comp_def]

theorem all_filter_zipIdx (P : Nat → Bool) (ρ : Var → Bool) (vs : List Var) (k : Nat) :
    ((vs.zipIdx k).filter fun p => P p.2).all (fun p => ρ p.1) =
      below ((List.range' k vs.length).map P) (vs.map ρ) := by
  induction vs generalizing k with
  | nil => simp [below]
  | cons w vs ih =>
    rw [List.zipIdx_cons, List.filter_cons, List.length_cons, List.range'_succ, List.map_cons,
      List.map_cons, below, ← ih]
    cases P k <;> simp

theorem value_monomial (vs : VarSet) (i : Nat) (ρ : Var → Bool) :
    (monomial vs i).value ρ = below (bitsOf vs.length i) (vs.map ρ) := by
  rw [monomial, Formula.value_getD_chain_and, List.all_map, bitsOf, List.range_eq_range']
  exact all_filter_zipIdx (fun j => i.testBit (vs.length - 1 - j)) ρ vs 0

theorem mem_vars_monomial {vs : List Var} {i : Nat} {v : Var} :
    v ∈ (monomial vs i).vars ↔ ∃ j : Nat, vs[j]? = some v ∧ (bitsOf vs.length i)[j]? = some true := by
  rw [monomial, Formula.mem_vars_getD_chain]
  simp only [List.mem_map, List.mem_filter, List.mem_zipIdx_iff_getElem?]
  constructor
  · rintro ⟨_, ⟨⟨w, j⟩, ⟨hw, hbit⟩, rfl⟩, hv⟩
    rw [Formula.mem_vars_var] at hv
    subst hv
    have hj : j < vs.length := (List.getElem?_eq_some_iff.mp hw).1
    exact ⟨j, hw, by simp [bitsOf, hj, hbit]⟩
  · rintro ⟨j, hw, hbit⟩
    have hj : j < vs.length := (List.getElem?_eq_some_iff.mp hw).1
    refine ⟨_, ⟨(v, j), ⟨hw, ?_⟩, rfl⟩, Formula.mem_vars_var.mpr rfl⟩
    simpa [bitsOf, hj] using hbit

theorem mem_vars_monomial_of_split {vs cs₁ cs₂ : VarSet} {v : Var} (hvs : vs = cs₁ ++ v :: cs₂)
    (hnd : vs.Nodup) {i : Nat} :
    v ∈ (monomial vs i).vars ↔ (bitsOf vs.length i)[cs₁.length]? = some true := by
  rw [mem_vars_monomial]
  have hv : vs[cs₁.length]? = some v := by simp [hvs]
  constructor
  · rintro ⟨j, hj, hbit⟩
    have hk : cs₁.length = j := (List.getElem?_inj (by simp [hvs]) hnd).mp (hv.trans hj.symm)
    rwa [hk]
  · intro hbit
    exact ⟨_, hv, hbit⟩

theorem zipIdx_column (m : Nat) (g : List Bool → Bool) :
    (column m g).zipIdx = (List.range (2 ^ m)).map fun i => (g (bitsOf m i), i) := by
  refine List.ext_getElem (by simp) fun i h₁ h₂ => ?_
  simp [column]

end Zhegalkin

namespace TruthTable

open Zhegalkin

section Polynomial

variable {t : Formula} {vs : VarSet}

theorem value_polynomial {p : Formula} (hp : (tabulate t vs).polynomial = some p) (ρ : Var → Bool) :
    p.value ρ = mobius vs.length (mobius vs.length fun x => t.value (assign vs x)) (vs.map ρ) := by
  rw [polynomial, coefficients_tabulate, columns_tabulate] at hp
  rw [Formula.value_chain_xor hp, List.map_map]
  have hterm : ((fun f : Formula => f.value ρ) ∘ fun q : Bool × Nat => monomial vs q.2) =
      fun q => below (bitsOf vs.length q.2) (vs.map ρ) := by
    funext q
    exact value_monomial vs q.2 ρ
  rw [hterm, parity_filter, zipIdx_column,
    List.map_map]
  simp only [mobius, xorSum, column, Function.comp_def, Bool.and_comm]

/-- Over duplicate-free columns that hold its variables, the polynomial computes the formula. -/
theorem value_polynomial_eq (hvs : vs.Nodup) (hsub : ∀ v ∈ t.vars, v ∈ vs) {p : Formula}
    (hp : (tabulate t vs).polynomial = some p) (ρ : Var → Bool) : p.value ρ = t.value ρ := by
  rw [value_polynomial hp, mobius_mobius _ _ (List.length_map ρ),
    ← value_eq_assign hvs hsub ρ]

theorem polynomial_shape {p : Formula} (hp : (tabulate t vs).polynomial = some p) :
    ∃ ms : List (List Var), (∀ m ∈ ms, m.Sublist vs) ∧
      Formula.chain .xor (ms.map Formula.conjunction) = some p := by
  refine ⟨((tabulate t vs).coefficients.zipIdx.filter (·.1)).map fun q =>
    (vs.zipIdx.filter fun p => q.2.testBit (vs.length - 1 - p.2)).map Prod.fst, ?_, ?_⟩
  · intro m hm
    obtain ⟨q, -, rfl⟩ := List.mem_map.mp hm
    have h : ((vs.zipIdx.filter fun p => q.2.testBit (vs.length - 1 - p.2)).map Prod.fst).Sublist
        (vs.zipIdx.map Prod.fst) := List.filter_sublist.map Prod.fst
    rwa [List.zipIdx_map_fst] at h
  · rw [List.map_map, ← hp, polynomial, columns_tabulate]
    congr 1
    refine List.map_congr_left fun q _ => ?_
    rw [Function.comp_apply, monomial_eq_conjunction]

theorem mem_vars_polynomial_iff {p : Formula} (hp : (tabulate t vs).polynomial = some p) (v : Var) :
    v ∈ p.vars ↔ ∃ i < 2 ^ vs.length,
      mobius vs.length (fun x => t.value (assign vs x)) (bitsOf vs.length i) = true ∧
        v ∈ (monomial vs i).vars := by
  rw [polynomial, coefficients_tabulate, columns_tabulate] at hp
  rw [Formula.mem_vars_of_chain hp]
  simp only [List.mem_map, List.mem_filter, zipIdx_column, List.mem_range]
  constructor
  · rintro ⟨_, ⟨_, ⟨⟨i, hi, rfl⟩, hc⟩, rfl⟩, hv⟩
    exact ⟨i, hi, hc, hv⟩
  · rintro ⟨i, hi, hc, hv⟩
    exact ⟨_, ⟨_, ⟨⟨i, hi, rfl⟩, hc⟩, rfl⟩, hv⟩

end Polynomial

section Dependence

variable {t : Formula}

theorem dependsOn_iff_not_ignores {cs₁ cs₂ : VarSet} {v : Var} (hcols : t.vars = cs₁ ++ v :: cs₂) :
    t.DependsOn v ↔ ¬ Ignores t.vars.length cs₁.length fun x => t.value (assign t.vars x) := by
  rw [Formula.dependsOn_iff_split hcols]
  have hn : t.vars.length = cs₁.length + 1 + cs₂.length := by
    simp [hcols]
    omega
  constructor
  · rintro ⟨y₁, y₂, h₁, h₂, hne⟩ hign
    exact hne (hign y₁ y₂ h₁ (by omega))
  · intro hnot
    by_contra hno
    push Not at hno
    exact hnot fun y₁ y₂ h₁ h₂ => hno y₁ y₂ h₁ (by omega)

theorem mem_vars_polynomial {p : Formula} (hp : (tabulate t t.vars).polynomial = some p)
    (v : Var) : v ∈ p.vars ↔ t.DependsOn v := by
  by_cases hv : v ∈ t.vars
  · obtain ⟨cs₁, cs₂, hcols⟩ := List.append_of_mem hv
    rw [mem_vars_polynomial_iff hp, dependsOn_iff_not_ignores hcols,
      ← exists_mobius_iff_not_ignores]
    simp only [mem_vars_monomial_of_split hcols t.vars_nodup]
    exact exists_bitsOf_iff (P := fun z =>
      mobius t.vars.length (fun x => t.value (assign t.vars x)) z = true ∧ z[cs₁.length]? = some true)
  · -- a variable outside the formula occurs nowhere
    have hnot : v ∉ p.vars := by
      rw [mem_vars_polynomial_iff hp]
      rintro ⟨i, -, -, hm⟩
      obtain ⟨j, hj, -⟩ := mem_vars_monomial.mp hm
      exact hv (List.mem_of_getElem? hj)
    exact ⟨fun h => absurd h hnot, fun h => absurd (Formula.mem_vars_of_dependsOn h) hv⟩

theorem exists_polynomial (hk : ¬ t.IsConstant) : ∃ p, (tabulate t t.vars).polynomial = some p := by
  rw [polynomial, coefficients_tabulate, columns_tabulate]
  refine Formula.exists_chain_eq_some .xor ?_
  intro hnil
  apply hk
  -- with every coefficient `0`, the formula is `0` everywhere
  have hvan : ∀ z : List Bool, z.length = t.vars.length →
      mobius t.vars.length (fun x => t.value (assign t.vars x)) z = false := by
    intro z hz
    rw [List.map_eq_nil_iff, List.filter_eq_nil_iff, zipIdx_column] at hnil
    have hb : bitsOf t.vars.length (valueOfBits z) = z := by
      rw [← hz]
      exact bitsOf_valueOfBits z
    have h := hnil _ (List.mem_map.mpr
      ⟨valueOfBits z, List.mem_range.mpr (hz ▸ valueOfBits_lt z), rfl⟩)
    rw [hb] at h
    simpa using h
  have hzero : ∀ ρ, t.value ρ = false := fun ρ =>
    calc t.value ρ = t.value (assign t.vars (t.vars.map ρ)) :=
          value_eq_assign t.vars_nodup (fun _ h => h) ρ
      _ = mobius t.vars.length (mobius t.vars.length fun x => t.value (assign t.vars x))
            (t.vars.map ρ) :=
          (mobius_mobius _ (fun x => t.value (assign t.vars x)) (List.length_map ρ)).symm
      _ = mobius t.vars.length (fun _ => false) (t.vars.map ρ) := mobius_congr hvan _
      _ = false := by simp [mobius]
  intro ρ σ
  rw [hzero ρ, hzero σ]

end Dependence

end TruthTable

namespace Calculator

variable {c : Calculator}

theorem polynomial_of_not_isConstant (hc : c.Coherent) (h : c.formula.vars.length ≤ maxVariables)
    (hk : ¬ c.formula.IsConstant) :
    ∃ c', polynomial.outcome c =
        .ok ((match (TruthTable.tabulate c.formula c.formula.vars).polynomial with
          | none => .error ⟨false⟩
          | some f => .ok f), c') ∧
      c'.formula = c.formula ∧ c'.Coherent := by
  obtain ⟨c', hout, hf, hc'⟩ := nonConstantTable_of_not_isConstant hc h hk
  refine ⟨c', ?_, hf, hc'⟩
  simp only [polynomial, Session.outcome_bind, hout]
  cases (TruthTable.tabulate c.formula c.formula.vars).polynomial <;> simp [note]

/-- The Zhegalkin polynomial of a formula with at most `maxVariables` variables that is not
constant exists. It is an exclusive-or chain of conjunctions of the formula's variables, it
takes the formula's value under every assignment, and its variables are exactly those the
formula depends on. -/
theorem polynomial_correct (c : Calculator) (hc : c.Coherent)
    (h : c.formula.vars.length ≤ maxVariables) (hk : ¬ c.formula.IsConstant) :
    ∃ p c', polynomial.outcome c = .ok (.ok p, c') ∧ c'.formula = c.formula ∧ c'.Coherent ∧
      (∃ ms : List (List Var), (∀ m ∈ ms, m.Sublist c.formula.vars) ∧
        Formula.chain .xor (ms.map Formula.conjunction) = some p) ∧
      (∀ ρ, p.value ρ = c.formula.value ρ) ∧
      (∀ v, v ∈ p.vars ↔ c.formula.DependsOn v) := by
  obtain ⟨c', hout, hf, hc'⟩ := polynomial_of_not_isConstant hc h hk
  obtain ⟨p, hp⟩ := TruthTable.exists_polynomial hk
  rw [hp] at hout
  exact ⟨p, c', hout, hf, hc', TruthTable.polynomial_shape hp,
    TruthTable.value_polynomial_eq c.formula.vars_nodup (fun _ h => h) hp,
    TruthTable.mem_vars_polynomial hp⟩

/-- `(a -> b) & (c V -c)`, on a fresh calculator, has a polynomial over `a` and `b` alone. -/
theorem polynomial_correct_implication :
    ∃ c : Calculator, c.formula = .bin .and (.bin .imply (.var ⟨'a', rfl⟩) (.var ⟨'b', rfl⟩))
        (.bin .or (.var ⟨'c', rfl⟩) (.neg (.var ⟨'c', rfl⟩))) ∧
      c.Coherent ∧ c.formula.vars.length ≤ maxVariables ∧ ¬ c.formula.IsConstant ∧
      ∃ p c', polynomial.outcome c = .ok (.ok p, c') ∧ c'.formula = c.formula ∧ c'.Coherent ∧
        (∃ ms : List (List Var), (∀ m ∈ ms, m.Sublist c.formula.vars) ∧
          Formula.chain .xor (ms.map Formula.conjunction) = some p) ∧
        (∀ ρ, p.value ρ = c.formula.value ρ) ∧
        (∀ v, v ∈ p.vars ↔ c.formula.DependsOn v) :=
  let c : Calculator := { formula := (.bin .and (.bin .imply (.var ⟨'a', rfl⟩) (.var ⟨'b', rfl⟩))
    (.bin .or (.var ⟨'c', rfl⟩) (.neg (.var ⟨'c', rfl⟩)))) }
  have hc : c.Coherent := coherent_of_fresh rfl rfl
  -- `a` alone true makes the implication false
  have hk : ¬ c.formula.IsConstant := fun h =>
    absurd (h (fun v => decide (v.name = 'a')) (fun _ => false)) (by decide)
  ⟨c, rfl, hc, by decide, hk, polynomial_correct c hc (by decide) hk⟩

end Calculator

end PropCalc
