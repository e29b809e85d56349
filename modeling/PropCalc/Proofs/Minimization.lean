import Mathlib
import PropCalc.Proofs.Tables
import PropCalc.Proofs.PrimeImplicants

namespace PropCalc

theorem mem_zip_iff_split {α β : Type} {l : List α} {r : List β} {v : α} {x : β} :
    (v, x) ∈ l.zip r ↔ ∃ l₁ l₂ r₁ r₂, l = l₁ ++ v :: l₂ ∧ r = r₁ ++ x :: r₂ ∧ l₁.length = r₁.length := by
  constructor
  · intro h
    induction l generalizing r with
    | nil => simp at h
    | cons w l ih =>
      cases r with
      | nil => simp at h
      | cons y r =>
        rcases List.mem_cons.mp h with e | h
        · obtain ⟨rfl, rfl⟩ := Prod.mk.inj e
          exact ⟨[], l, [], r, rfl, rfl, rfl⟩
        · obtain ⟨l₁, l₂, r₁, r₂, rfl, rfl, hlen⟩ := ih h
          exact ⟨w :: l₁, l₂, y :: r₁, r₂, rfl, rfl, by simp [hlen]⟩
  · rintro ⟨l₁, l₂, r₁, r₂, rfl, rfl, hlen⟩
    rw [List.zip_append hlen]
    simp

namespace Implicant

theorem value_toTerm {a : Implicant} {vs : List Var} (hlen : a.length = vs.length) (ρ : Var → Bool) :
    (a.toTerm vs).value ρ = a.covers (vs.map ρ) := by
  rw [toTerm, Formula.value_getD_chain_and]
  induction a generalizing vs with
  | nil =>
    cases vs with
    | nil => rfl
    | cons => simp at hlen
  | cons x a ih =>
    cases vs with
    | nil => simp at hlen
    | cons w vs =>
      have ih' := @ih vs (by simpa using hlen)
      rw [List.zip_cons_cons, List.filterMap_cons, List.map_cons, covers_cons_cons, ← ih']
      cases x <;> simp [Formula.literal, Formula.value, Bit.admits]

theorem mem_vars_toTerm {a : Implicant} {vs : List Var} {v : Var} :
    v ∈ (a.toTerm vs).vars ↔ ∃ x, (v, x) ∈ vs.zip a ∧ x ≠ .dontCare := by
  rw [toTerm, Formula.mem_vars_getD_chain]
  induction a generalizing vs with
  | nil => simp
  | cons x a ih =>
    cases vs with
    | nil => simp
    | cons w vs =>
      have hhead : (∃ y, (v, y) ∈ (w, x) :: vs.zip a ∧ y ≠ .dontCare) ↔
          (v = w ∧ x ≠ .dontCare) ∨ ∃ y, (v, y) ∈ vs.zip a ∧ y ≠ .dontCare := by
        simp only [List.mem_cons, Prod.mk.injEq]
        constructor
        · rintro ⟨y, ⟨rfl, rfl⟩ | h, hy⟩
          · exact .inl ⟨rfl, hy⟩
          · exact .inr ⟨y, h, hy⟩
        · rintro (⟨rfl, hx⟩ | ⟨y, h, hy⟩)
          · exact ⟨x, .inl ⟨rfl, rfl⟩, hx⟩
          · exact ⟨y, .inr h, hy⟩
      rw [List.zip_cons_cons, List.filterMap_cons, hhead, ← @ih vs]
      cases x
      · dsimp only
        simp only [List.mem_cons, or_and_right, exists_or, exists_eq_left]
        simp [Formula.literal]
      · dsimp only
        simp only [List.mem_cons, or_and_right, exists_or, exists_eq_left]
        simp [Formula.literal]
      · simp

end Implicant

namespace Formula

/-- The rows of a formula's table, over its own variables, where it is true. -/
def minterms (t : Formula) : List (List Bool) :=
  (TruthTable.tabulate t t.vars).satisfying.map Row.values

section Minterms

variable {t : Formula}

theorem mem_minterms {y : List Bool} :
    y ∈ t.minterms ↔ y.length = t.vars.length ∧ t.value (TruthTable.assign t.vars y) = true :=
  TruthTable.mem_satisfying_values

theorem length_of_mem_minterms {y : List Bool} (hy : y ∈ t.minterms) : y.length = t.vars.length :=
  (mem_minterms.mp hy).1

theorem map_mem_minterms_iff (ρ : Var → Bool) : t.vars.map ρ ∈ t.minterms ↔ t.value ρ = true := by
  rw [mem_minterms, ← TruthTable.value_eq_assign t.vars_nodup (fun _ h => h) ρ]
  simp

end Minterms

section Primes

variable {t : Formula} {ps : List Implicant}
  (hps : ∀ a, a ∈ ps ↔ Implicant.IsPrime t.vars.length t.minterms a)
include hps

open Implicant

theorem value_primes_or {f : Formula} (hf : chain .or (ps.map (·.toTerm t.vars)) = some f)
    (ρ : Var → Bool) : f.value ρ = t.value ρ := by
  rw [value_chain_or hf]
  refine Bool.eq_iff_iff.mpr ?_
  rw [List.any_map, List.any_eq_true, ← map_mem_minterms_iff]
  constructor
  · rintro ⟨a, ha, hcov⟩
    have hp := (hps a).mp ha
    rw [Function.comp_apply, value_toTerm hp.1.1] at hcov
    exact hp.1.2 _ hcov
  · intro hy
    obtain ⟨a, hp, hcov⟩ := exists_prime_covering hy (length_of_mem_minterms hy)
    refine ⟨a, (hps a).mpr hp, ?_⟩
    rw [Function.comp_apply, value_toTerm hp.1.1]
    exact hcov

/-- A column fixed by a prime implicant is a variable the formula depends on: freeing it
would cover a falsifying row beside a satisfying one. -/
theorem dependsOn_of_fixed {a : Implicant} (ha : a ∈ ps) {v : Var} {x : Bit}
    (hmem : (v, x) ∈ t.vars.zip a) (hx : x ≠ .dontCare) : t.DependsOn v := by
  obtain ⟨cs₁, cs₂, p, q, hcols, rfl, hlen⟩ := mem_zip_iff_split.mp hmem
  obtain ⟨b, rfl⟩ := Bit.exists_eq_ofBool hx
  have hp := (hps _).mp ha
  obtain ⟨y₁, y₂, h₁, h₂, hin, hout⟩ := hp.exists_neighbours
  have hlen₂ : y₂.length = cs₂.length := by
    have hn := hp.1.1
    rw [hcols] at hn
    simp only [List.length_append, List.length_cons] at hn
    omega
  have hlen₁ : y₁.length = cs₁.length := h₁.trans hlen.symm
  refine dependsOn_of_split hcols hlen₁ hlen₂ b ?_
  rw [(mem_minterms.mp hin).2]
  intro htrue
  have hrowlen : (y₁ ++ (!b) :: y₂).length = t.vars.length := by simp [hcols, hlen₁, hlen₂]
  exact hout (mem_minterms.mpr ⟨hrowlen, htrue.symm⟩)

theorem exists_fixed_of_dependsOn {v : Var} (hdep : t.DependsOn v) :
    ∃ a ∈ ps, ∃ x, (v, x) ∈ t.vars.zip a ∧ x ≠ .dontCare := by
  obtain ⟨cs₁, cs₂, hcols⟩ := List.append_of_mem (mem_vars_of_dependsOn hdep)
  obtain ⟨ρ, hρ⟩ := hdep
  rw [value_update_split hcols, value_update_split hcols] at hρ
  -- of the two rows that differ in the column of `v`, one is a minterm and the other is not
  obtain ⟨b, hb, hnb⟩ : ∃ b,
      t.value (TruthTable.assign t.vars (cs₁.map ρ ++ b :: cs₂.map ρ)) = true ∧
        t.value (TruthTable.assign t.vars (cs₁.map ρ ++ (!b) :: cs₂.map ρ)) = false := by
    cases h : t.value (TruthTable.assign t.vars (cs₁.map ρ ++ false :: cs₂.map ρ))
    · exact ⟨true, by simpa [h] using hρ.symm, h⟩
    · exact ⟨false, h, by simpa [h] using hρ.symm⟩
  have hlen : (cs₁.map ρ ++ b :: cs₂.map ρ).length = t.vars.length := by simp [hcols]
  obtain ⟨a, hp, hcov⟩ := exists_prime_covering (mem_minterms.mpr ⟨hlen, hb⟩) hlen
  have hnot : cs₁.map ρ ++ (!b) :: cs₂.map ρ ∉ t.minterms := fun h => by
    rw [(mem_minterms.mp h).2] at hnb
    exact Bool.noConfusion hnb
  obtain ⟨p, q, rfl, hp₁⟩ := hp.1.fixed_of_neighbour hcov hnot
  exact ⟨_, (hps _).mpr hp, Bit.ofBool b,
    mem_zip_iff_split.mpr ⟨cs₁, cs₂, p, q, hcols, rfl, by simp [hp₁]⟩, Bit.ofBool_ne_dontCare b⟩

theorem mem_vars_primes_or {f : Formula} (hf : chain .or (ps.map (·.toTerm t.vars)) = some f)
    (v : Var) : v ∈ f.vars ↔ t.DependsOn v := by
  rw [mem_vars_of_chain hf]
  constructor
  · rintro ⟨_, hmem, hv⟩
    obtain ⟨a, ha, rfl⟩ := List.mem_map.mp hmem
    obtain ⟨x, hzip, hx⟩ := mem_vars_toTerm.mp hv
    exact dependsOn_of_fixed hps ha hzip hx
  · intro hdep
    obtain ⟨a, ha, x, hzip, hx⟩ := exists_fixed_of_dependsOn hps hdep
    exact ⟨_, List.mem_map_of_mem ha, mem_vars_toTerm.mpr ⟨x, hzip, hx⟩⟩

theorem exists_primes_or (hk : ¬ t.IsConstant) :
    ∃ f, chain .or (ps.map (·.toTerm t.vars)) = some f := by
  refine exists_chain_eq_some .or ?_
  obtain ⟨ρ, hρ⟩ := exists_value_eq_of_not_isConstant hk true
  have hy := (map_mem_minterms_iff ρ).mpr hρ
  obtain ⟨a, hp, -⟩ := exists_prime_covering hy (length_of_mem_minterms hy)
  exact List.ne_nil_of_mem (List.mem_map_of_mem ((hps a).mpr hp))

end Primes

end Formula

namespace Calculator

variable {c : Calculator}

theorem minimize_of_isConstant (hc : c.Coherent) (h : c.formula.vars.length ≤ maxVariables)
    (hk : c.formula.IsConstant) :
    ∃ c', minimize.outcome c = .ok (.const (c.formula.value fun _ => false), c') ∧
      c'.formula = c.formula ∧ c'.Coherent := by
  obtain ⟨c', hout, hf, hc'⟩ := nonConstantTable_of_isConstant hc h hk
  exact ⟨c', by simp [minimize, hout], hf, hc'⟩

theorem minimize_of_not_isConstant (hc : c.Coherent) (h : c.formula.vars.length ≤ maxVariables)
    (hk : ¬ c.formula.IsConstant) :
    ∃ c', minimize.outcome c =
        .ok ((Formula.chain .or ((QuineMcCluskey.primeImplicants c.formula.minterms).value.map
          (·.toTerm c.formula.vars))).getD (.const false), c') ∧
      c'.formula = c.formula ∧ c'.Coherent := by
  obtain ⟨c', hout, hf, hc'⟩ := nonConstantTable_of_not_isConstant hc h hk
  exact ⟨c', by simp [minimize, hout, Formula.minterms], hf, hc'⟩

/-- Minimizing the formula of a coherent calculator with at most `maxVariables` variables
succeeds. The result takes the formula's value under every assignment and has exactly the
variables the formula depends on; when the formula is not constant it is the disjunction of
the terms of all the prime implicants of its minterms. -/
theorem minimize_correct (c : Calculator) (hc : c.Coherent)
    (h : c.formula.vars.length ≤ maxVariables) :
    ∃ f c', minimize.outcome c = .ok (f, c') ∧ c'.formula = c.formula ∧ c'.Coherent ∧
      (∀ ρ, f.value ρ = c.formula.value ρ) ∧
      (∀ v, v ∈ f.vars ↔ c.formula.DependsOn v) ∧
      (¬ c.formula.IsConstant → ∃ ps : List Implicant,
        (∀ a, a ∈ ps ↔ Implicant.IsPrime c.formula.vars.length c.formula.minterms a) ∧
          Formula.chain .or (ps.map (·.toTerm c.formula.vars)) = some f) := by
  by_cases hk : c.formula.IsConstant
  · obtain ⟨c', hout, hf, hc'⟩ := minimize_of_isConstant hc h hk
    refine ⟨_, c', hout, hf, hc', fun ρ => hk _ ρ, fun v => ?_, fun hnk => absurd hk hnk⟩
    exact ⟨fun hv => absurd hv Formula.not_mem_vars_const,
      fun hd => absurd hd (Formula.not_dependsOn_of_isConstant hk v)⟩
  · obtain ⟨c', hout, hf, hc'⟩ := minimize_of_not_isConstant hc h hk
    have hps := QuineMcCluskey.mem_primeImplicants
      (fun _ hy => Formula.length_of_mem_minterms (t := c.formula) hy)
    obtain ⟨f, hchain⟩ := Formula.exists_primes_or hps hk
    rw [hchain, Option.getD_some] at hout
    exact ⟨f, c', hout, hf, hc', Formula.value_primes_or hps hchain,
      Formula.mem_vars_primes_or hps hchain, fun _ => ⟨_, hps, hchain⟩⟩

theorem minimize_correct_absorption :
    ∃ c : Calculator, c.formula = .bin .or (.bin .and (.var ⟨'a', rfl⟩) (.var ⟨'b', rfl⟩))
        (.bin .and (.var ⟨'a', rfl⟩) (.neg (.var ⟨'b', rfl⟩))) ∧
      c.Coherent ∧ c.formula.vars.length ≤ maxVariables ∧
      ∃ f c', minimize.outcome c = .ok (f, c') ∧ c'.formula = c.formula ∧ c'.Coherent ∧
        (∀ ρ, f.value ρ = c.formula.value ρ) ∧
        (∀ v, v ∈ f.vars ↔ c.formula.DependsOn v) ∧
        (¬ c.formula.IsConstant → ∃ ps : List Implicant,
          (∀ a, a ∈ ps ↔ Implicant.IsPrime c.formula.vars.length c.formula.minterms a) ∧
            Formula.chain .or (ps.map (·.toTerm c.formula.vars)) = some f) :=
  let c : Calculator := { formula := (.bin .or (.bin .and (.var ⟨'a', rfl⟩) (.var ⟨'b', rfl⟩))
    (.bin .and (.var ⟨'a', rfl⟩) (.neg (.var ⟨'b', rfl⟩)))) }
  have hc : c.Coherent := coherent_of_fresh rfl rfl
  ⟨c, rfl, hc, by decide, minimize_correct c hc (by decide)⟩

end Calculator

end PropCalc
