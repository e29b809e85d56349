import Mathlib
import PropCalc.Proofs.Columns
import PropCalc.Proofs.NormalForms
import PropCalc.Proofs.Minimization

namespace PropCalc

namespace VarSet

theorem Increasing.sublist {s t : VarSet} (hs : Increasing s) (ht : Increasing t)
    (h : ∀ v ∈ s, v ∈ t) : s.Sublist t := by
  have : Std.Antisymm (fun a b : Var => a.name.toNat < b.name.toNat) :=
    ⟨fun _ _ hab hba => absurd (hab.trans hba) (lt_irrefl _)⟩
  exact List.sublist_of_subperm_of_pairwise (List.subperm_of_subset hs.nodup h) hs ht

end VarSet

namespace Formula

variable {e f : Formula}

theorem not_isConstant_of_value_eq (hv : ∀ ρ, f.value ρ = e.value ρ) (hk : ¬ e.IsConstant) :
    ¬ f.IsConstant :=
  fun hf => hk fun ρ σ => by rw [← hv ρ, ← hv σ]; exact hf ρ σ

theorem vars_sublist_of_dependsOn (hvars : ∀ v, v ∈ f.vars ↔ e.DependsOn v) :
    f.vars.Sublist e.vars ∧ ∀ v ∈ e.vars, v ∉ f.vars → ¬ e.DependsOn v :=
  ⟨VarSet.Increasing.sublist f.vars_increasing e.vars_increasing
    fun v hv => mem_vars_of_dependsOn ((hvars v).mp hv),
    fun v _ hv hdep => hv ((hvars v).mpr hdep)⟩

end Formula

namespace Calculator

open TruthTable

variable {c : Calculator}

/-- An analysis that reads its answer off the formula's table, as a form with the formula's values
and all its variables, is idempotent: the form's own table is the formula's. -/
theorem idempotent_of_full_form {A : Session (Except ConstantFunction Formula)}
    {form : TruthTable → Except Panic (Option Formula)}
    (hA : ∀ {c : Calculator}, c.Coherent → c.formula.vars.length ≤ maxVariables →
      ¬ c.formula.IsConstant → ∃ f c', A.outcome c = .ok (.ok f, c') ∧ c'.formula = c.formula ∧
        c'.Coherent ∧ form (tabulate c.formula c.formula.vars) = .ok (some f))
    (hspec : ∀ {t f : Formula}, ¬ t.IsConstant → form (tabulate t t.vars) = .ok (some f) →
      (∀ ρ, f.value ρ = t.value ρ) ∧ f.vars = t.vars)
    (hc : c.Coherent) (h : c.formula.vars.length ≤ maxVariables) (hk : ¬ c.formula.IsConstant) :
    ∃ f c', A.outcome c = .ok (.ok f, c') ∧
      ∀ d : Calculator, d.Coherent → d.formula = f → ∃ d', A.outcome d = .ok (.ok f, d') := by
  obtain ⟨f, c', hout, -, -, hform⟩ := hA hc h hk
  obtain ⟨hv, hvars⟩ := hspec hk hform
  refine ⟨f, c', hout, fun d hd hdf => ?_⟩
  have htable : tabulate d.formula d.formula.vars = tabulate c.formula c.formula.vars := by
    rw [hdf, hvars, tabulate_congr hv]
  obtain ⟨g, d', hout', -, -, hform'⟩ := hA hd
    (by rw [hdf, hvars]; exact h) (by rw [hdf]; exact Formula.not_isConstant_of_value_eq hv hk)
  rw [htable, hform, Except.ok.injEq, Option.some.injEq] at hform'
  exact ⟨d', by rw [hout', hform']⟩

theorem fullDisjunctive_idempotent (hc : c.Coherent) (h : c.formula.vars.length ≤ maxVariables)
    (hk : ¬ c.formula.IsConstant) :
    ∃ f c', fullDisjunctive.outcome c = .ok (.ok f, c') ∧
      ∀ d : Calculator, d.Coherent → d.formula = f → ∃ d', fullDisjunctive.outcome d = .ok (.ok f, d') :=
  idempotent_of_full_form fullDisjunctive_of_not_isConstant
    (fun hk hf => (fullDisjunctive_spec hk hf).imp_right And.left) hc h hk

theorem fullConjunctive_idempotent (hc : c.Coherent) (h : c.formula.vars.length ≤ maxVariables)
    (hk : ¬ c.formula.IsConstant) :
    ∃ f c', fullConjunctive.outcome c = .ok (.ok f, c') ∧
      ∀ d : Calculator, d.Coherent → d.formula = f → ∃ d', fullConjunctive.outcome d = .ok (.ok f, d') :=
  idempotent_of_full_form fullConjunctive_of_not_isConstant
    (fun hk hf => (fullConjunctive_spec hk hf).imp_right And.left) hc h hk

theorem polynomial_idempotent (hc : c.Coherent) (h : c.formula.vars.length ≤ maxVariables)
    (hk : ¬ c.formula.IsConstant) :
    ∃ p c', polynomial.outcome c = .ok (.ok p, c') ∧
      ∀ d : Calculator, d.Coherent → d.formula = p → ∃ d', polynomial.outcome d = .ok (.ok p, d') := by
  obtain ⟨c', hout, -, -⟩ := polynomial_of_not_isConstant hc h hk
  obtain ⟨p, hp⟩ := exists_polynomial hk
  rw [hp] at hout
  have hv := value_polynomial_eq c.formula.vars_nodup (fun _ h => h) hp
  obtain ⟨hsub, hdep⟩ := Formula.vars_sublist_of_dependsOn (mem_vars_polynomial hp)
  refine ⟨p, c', hout, fun d hd hdf => ?_⟩
  -- the new table leaves out the columns the formula ignores, which keeps the polynomial
  have hpoly : (tabulate d.formula d.formula.vars).polynomial = some p := by
    rw [hdf, tabulate_congr hv,
      Zhegalkin.polynomial_tabulate_sublist c.formula.vars_nodup hsub hdep, hp]
  obtain ⟨d', hout', -, -⟩ := polynomial_of_not_isConstant hd
    (by rw [hdf]; exact hsub.length_le.trans h)
    (by rw [hdf]; exact Formula.not_isConstant_of_value_eq hv hk)
  rw [hpoly] at hout'
  exact ⟨d', hout'⟩

theorem minimize_idempotent (hc : c.Coherent) (h : c.formula.vars.length ≤ maxVariables) :
    ∃ f c', minimize.outcome c = .ok (f, c') ∧
      ∀ d : Calculator, d.Coherent → d.formula = f → ∃ d', minimize.outcome d = .ok (f, d') := by
  by_cases hk : c.formula.IsConstant
  · -- a constant minimizes to itself
    obtain ⟨c', hout, -, -⟩ := minimize_of_isConstant hc h hk
    refine ⟨_, c', hout, fun d hd hdf => ?_⟩
    have hdk : d.formula.IsConstant := by
      rw [hdf]
      exact fun _ _ => rfl
    obtain ⟨d', hout', -, -⟩ := minimize_of_isConstant hd (by rw [hdf]; exact Nat.zero_le _) hdk
    exact ⟨d', by rw [hout', hdf]; rfl⟩
  · obtain ⟨c', hout, -, -⟩ := minimize_of_not_isConstant hc h hk
    have hps := QuineMcCluskey.mem_primeImplicants
      (fun _ hy => Formula.length_of_mem_minterms (t := c.formula) hy)
    obtain ⟨f, hchain⟩ := Formula.exists_primes_or hps hk
    rw [hchain, Option.getD_some] at hout
    have hv := Formula.value_primes_or hps hchain
    obtain ⟨hsub, hdep⟩ := Formula.vars_sublist_of_dependsOn (Formula.mem_vars_primes_or hps hchain)
    refine ⟨f, c', hout, fun d hd hdf => ?_⟩
    -- the new table leaves out the columns the formula ignores, which keeps the terms
    have hterms : (QuineMcCluskey.primeImplicants d.formula.minterms).value.map
        (·.toTerm d.formula.vars) =
        (QuineMcCluskey.primeImplicants c.formula.minterms).value.map (·.toTerm c.formula.vars) := by
      rw [hdf, Formula.minterms, Formula.minterms, tabulate_congr hv,
        QuineMcCluskey.terms_primeImplicants_sublist c.formula.vars_nodup hsub hdep]
    obtain ⟨d', hout', -, -⟩ := minimize_of_not_isConstant hd
      (by rw [hdf]; exact hsub.length_le.trans h)
      (by rw [hdf]; exact Formula.not_isConstant_of_value_eq hv hk)
    rw [hterms, hchain, Option.getD_some] at hout'
    exact ⟨d', hout'⟩

/-- Every analysis is idempotent: a calculator over the full disjunctive form, the full
conjunctive form or the polynomial of a formula that is not constant gives that form back, and
one over the minimized form of any formula gives the minimized form back. -/
theorem analyses_idempotent (c : Calculator) (hc : c.Coherent)
    (h : c.formula.vars.length ≤ maxVariables) :
    (¬ c.formula.IsConstant →
      (∃ f c', fullDisjunctive.outcome c = .ok (.ok f, c') ∧
        ∀ d : Calculator, d.Coherent → d.formula = f →
          ∃ d', fullDisjunctive.outcome d = .ok (.ok f, d')) ∧
      (∃ f c', fullConjunctive.outcome c = .ok (.ok f, c') ∧
        ∀ d : Calculator, d.Coherent → d.formula = f →
          ∃ d', fullConjunctive.outcome d = .ok (.ok f, d')) ∧
      (∃ p c', polynomial.outcome c = .ok (.ok p, c') ∧
        ∀ d : Calculator, d.Coherent → d.formula = p →
          ∃ d', polynomial.outcome d = .ok (.ok p, d'))) ∧
    ∃ f c', minimize.outcome c = .ok (f, c') ∧
      ∀ d : Calculator, d.Coherent → d.formula = f → ∃ d', minimize.outcome d = .ok (f, d') :=
  ⟨fun hk => ⟨fullDisjunctive_idempotent hc h hk, fullConjunctive_idempotent hc h hk,
    polynomial_idempotent hc h hk⟩, minimize_idempotent hc h⟩

theorem analyses_idempotent_implication :
    ∃ c : Calculator, c.formula = .bin .and (.bin .imply (.var ⟨'a', rfl⟩) (.var ⟨'b', rfl⟩))
        (.bin .or (.var ⟨'c', rfl⟩) (.neg (.var ⟨'c', rfl⟩))) ∧
      c.Coherent ∧ c.formula.vars.length ≤ maxVariables ∧
      ((¬ c.formula.IsConstant →
        (∃ f c', fullDisjunctive.outcome c = .ok (.ok f, c') ∧
          ∀ d : Calculator, d.Coherent → d.formula = f →
            ∃ d', fullDisjunctive.outcome d = .ok (.ok f, d')) ∧
        (∃ f c', fullConjunctive.outcome c = .ok (.ok f, c') ∧
          ∀ d : Calculator, d.Coherent → d.formula = f →
            ∃ d', fullConjunctive.outcome d = .ok (.ok f, d')) ∧
        (∃ p c', polynomial.outcome c = .ok (.ok p, c') ∧
          ∀ d : Calculator, d.Coherent → d.formula = p →
            ∃ d', polynomial.outcome d = .ok (.ok p, d'))) ∧
      ∃ f c', minimize.outcome c = .ok (f, c') ∧
        ∀ d : Calculator, d.Coherent → d.formula = f → ∃ d', minimize.outcome d = .ok (f, d')) :=
  let c : Calculator := { formula := (.bin .and (.bin .imply (.var ⟨'a', rfl⟩) (.var ⟨'b', rfl⟩))
    (.bin .or (.var ⟨'c', rfl⟩) (.neg (.var ⟨'c', rfl⟩)))) }
  have hc : c.Coherent := coherent_of_fresh rfl rfl
  ⟨c, rfl, hc, by decide, analyses_idempotent c hc (by decide)⟩

end Calculator

end PropCalc
