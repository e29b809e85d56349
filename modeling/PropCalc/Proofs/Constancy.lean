import Mathlib
import PropCalc.Proofs.NormalForms
import PropCalc.Proofs.Minimization
import PropCalc.Proofs.Polynomial

namespace PropCalc

namespace Formula

def ReportsConstancy {α : Type} (t : Formula) (r : Except ConstantFunction α) : Prop :=
  ∀ v, r = .error ⟨v⟩ ↔ ∀ ρ, t.value ρ = v

variable {t : Formula} {α : Type}

theorem reportsConstancy_error (hk : t.IsConstant) :
    t.ReportsConstancy (.error ⟨t.value fun _ => false⟩ : Except ConstantFunction α) := by
  intro v
  constructor
  · intro h ρ
    cases h
    exact hk ρ _
  · intro h
    rw [h]

theorem reportsConstancy_ok (hk : ¬ t.IsConstant) (a : α) :
    t.ReportsConstancy (.ok a : Except ConstantFunction α) := by
  intro v
  constructor
  · intro h
    cases h
  · intro h
    exact absurd (isConstant_of_value_eq h) hk

end Formula

namespace Calculator

variable {c : Calculator}

theorem primes_of_not_isConstant (hc : c.Coherent) (h : c.formula.vars.length ≤ maxVariables)
    (hk : ¬ c.formula.IsConstant) :
    ∃ ps c', primes.outcome c = .ok (.ok ps, c') := by
  obtain ⟨c', hout, -, -⟩ := nonConstantTable_of_not_isConstant hc h hk
  exact ⟨(QuineMcCluskey.primeImplicants c.formula.minterms).value, c',
    by simp [primes, hout, Formula.minterms]⟩

/-- Every analysis of a formula with at most `maxVariables` variables agrees on constancy. The
full forms, the polynomial and the prime implicants answer the constant function with value `v`
exactly when the formula takes `v` under every assignment, and a result otherwise. A constant
formula minimizes to its constant. The table is refused exactly when the formula has no
variables. -/
theorem analyses_agree_on_constancy (c : Calculator) (hc : c.Coherent)
    (h : c.formula.vars.length ≤ maxVariables) :
    (∃ r c', fullConjunctive.outcome c = .ok (r, c') ∧ c.formula.ReportsConstancy r) ∧
    (∃ r c', fullDisjunctive.outcome c = .ok (r, c') ∧ c.formula.ReportsConstancy r) ∧
    (∃ r c', polynomial.outcome c = .ok (r, c') ∧ c.formula.ReportsConstancy r) ∧
    (∃ r c', primes.outcome c = .ok (r, c') ∧ c.formula.ReportsConstancy r) ∧
    (∀ v, (∀ ρ, c.formula.value ρ = v) → ∃ c', minimize.outcome c = .ok (.const v, c')) ∧
    (∃ r c', table.outcome c = .ok (r, c') ∧ ((∃ e, r = .error e) ↔ c.formula.vars = [])) := by
  have htable : ∃ r c', table.outcome c = .ok (r, c') ∧ ((∃ e, r = .error e) ↔ c.formula.vars = []) := by
    obtain ⟨c', hout, -, -⟩ := table_outcome hc h
    exact ⟨_, c', hout, Formula.tableResult_error_iff⟩
  by_cases hk : c.formula.IsConstant
  · -- every analysis passes on the error of the non-constant table
    obtain ⟨c', hout, -, -⟩ := nonConstantTable_of_isConstant hc h hk
    have hmin : ∀ v, (∀ ρ, c.formula.value ρ = v) → ∃ c', minimize.outcome c = .ok (.const v, c') := by
      rintro v hv
      obtain ⟨c', hmin, -, -⟩ := minimize_of_isConstant hc h hk
      rw [hv] at hmin
      exact ⟨c', hmin⟩
    exact ⟨⟨_, c', by simp [fullConjunctive, hout], Formula.reportsConstancy_error hk⟩,
      ⟨_, c', by simp [fullDisjunctive, hout], Formula.reportsConstancy_error hk⟩,
      ⟨_, c', by simp [polynomial, hout], Formula.reportsConstancy_error hk⟩,
      ⟨_, c', by simp [primes, hout], Formula.reportsConstancy_error hk⟩, hmin, htable⟩
  · -- the fallbacks are not reached: each analysis has its result
    have hmin : ∀ v, (∀ ρ, c.formula.value ρ = v) → ∃ c', minimize.outcome c = .ok (.const v, c') :=
      fun _ hv => absurd (Formula.isConstant_of_value_eq hv) hk
    obtain ⟨f₁, c₁, hcnf, -⟩ := fullConjunctive_of_not_isConstant hc h hk
    obtain ⟨f₂, c₂, hdnf, -⟩ := fullDisjunctive_of_not_isConstant hc h hk
    obtain ⟨c₃, hpoly, -, -⟩ := polynomial_of_not_isConstant hc h hk
    obtain ⟨ps, c₄, hprimes⟩ := primes_of_not_isConstant hc h hk
    obtain ⟨f₃, hf₃⟩ := TruthTable.exists_polynomial hk
    rw [hf₃] at hpoly
    exact ⟨⟨_, c₁, hcnf, Formula.reportsConstancy_ok hk f₁⟩, ⟨_, c₂, hdnf, Formula.reportsConstancy_ok hk f₂⟩,
      ⟨_, c₃, hpoly, Formula.reportsConstancy_ok hk f₃⟩, ⟨_, c₄, hprimes, Formula.reportsConstancy_ok hk ps⟩,
      hmin, htable⟩

theorem analyses_agree_on_constancy_tautology :
    ∃ c : Calculator, c.formula = .bin .or (.var ⟨'a', rfl⟩) (.neg (.var ⟨'a', rfl⟩)) ∧
      c.Coherent ∧ c.formula.vars.length ≤ maxVariables ∧
      (∃ r c', fullConjunctive.outcome c = .ok (r, c') ∧ c.formula.ReportsConstancy r) ∧
      (∃ r c', fullDisjunctive.outcome c = .ok (r, c') ∧ c.formula.ReportsConstancy r) ∧
      (∃ r c', polynomial.outcome c = .ok (r, c') ∧ c.formula.ReportsConstancy r) ∧
      (∃ r c', primes.outcome c = .ok (r, c') ∧ c.formula.ReportsConstancy r) ∧
      (∀ v, (∀ ρ, c.formula.value ρ = v) → ∃ c', minimize.outcome c = .ok (.const v, c')) ∧
      (∃ r c', table.outcome c = .ok (r, c') ∧ ((∃ e, r = .error e) ↔ c.formula.vars = [])) :=
  let c : Calculator := { formula := .bin .or (.var ⟨'a', rfl⟩) (.neg (.var ⟨'a', rfl⟩)) }
  have hc : c.Coherent := coherent_of_fresh rfl rfl
  ⟨c, rfl, hc, by decide, analyses_agree_on_constancy c hc (by decide)⟩

end Calculator

end PropCalc
