import Mathlib
import PropCalc.Formula.Evaluate
import PropCalc.Proofs.Arena

namespace PropCalc

namespace Formula

variable (σ : Assignment)

/-- Node `k` of the layout is the variable `x`, which has no value, and no later variable node is
unbound. -/
def LastUnbound (t : Formula) (k : Nat) (x : Var) : Prop :=
  t.layout.nodes[k]? = some (.var x) ∧ σ x = none ∧
    ∀ j y, k < j → t.layout.nodes[j]? = some (.var y) → σ y ≠ none

theorem tryFold_evalStep_of_bound {s : Formula} (h : ∀ x ∈ s.vars, σ x ≠ none) :
    s.tryFold (Shape.evalStep σ) = .ok (s.value fun x => (σ x).getD false) := by
  induction s with
  | const b => rfl
  | var v =>
    obtain ⟨b, hb⟩ := Option.ne_none_iff_exists'.mp (h v (mem_vars_var.mpr rfl))
    simp [tryFold, Shape.evalStep, hb, value]
  | neg a ih =>
    rw [tryFold, ih fun x hx => h x (mem_vars_neg.mpr hx)]
    rfl
  | bin op a b iha ihb =>
    rw [tryFold, iha fun x hx => h x (mem_vars_bin.mpr (.inl hx)),
      ihb fun x hx => h x (mem_vars_bin.mpr (.inr hx))]
    rfl

theorem tryFold_evalStep_var_of_unbound {x : Var} (hx : σ x = none) :
    (var x).tryFold (Shape.evalStep σ) = .error ⟨x⟩ := by
  simp [tryFold, Shape.evalStep, hx]

variable {σ}

theorem evaluate_of_bound {t : Formula} (h : ∀ x ∈ t.vars, σ x ≠ none) :
    t.evaluate σ = .ok (some (t.value fun x => (σ x).getD false)) := by
  rw [evaluate, Layout.evaluate, tryCollapse_of_tryFold _ t (tryFold_evalStep_of_bound σ h)]

theorem evaluate_of_lastUnbound {t : Formula} {k : Nat} {x : Var} (h : t.LastUnbound σ k x) :
    t.evaluate σ = .error ⟨x⟩ := by
  obtain ⟨hk, hx, hlater⟩ := h
  have hs : t.bfs[k]? = some (var x) := getElem?_layout_nodes_eq_var_iff.mp hk
  -- the subtrees after node `k` have only bound variables, so their folds succeed
  have hfold : ∀ j s, k < j → t.bfs[j]? = some s → ∃ r, s.tryFold (Shape.evalStep σ) = .ok r := by
    intro j s hj hs'
    refine ⟨_, tryFold_evalStep_of_bound σ fun y hy hσ => ?_⟩
    obtain ⟨j', hj', hvar⟩ := exists_var_node t hs' hy
    exact hlater j' y (by omega) (getElem?_layout_nodes_eq_var_iff.mpr hvar) hσ
  rw [evaluate, Layout.evaluate, tryCollapse_of_error _ t hs (tryFold_evalStep_var_of_unbound σ hx) hfold]

theorem exists_lastUnbound {t : Formula} {x : Var} (hx : x ∈ t.vars) (hσ : σ x = none) :
    ∃ k y, t.LastUnbound σ k y := by
  classical
  let P : Nat → Prop := fun k => ∃ y, t.layout.nodes[k]? = some (.var y) ∧ σ y = none
  obtain ⟨j₀, -, hvar⟩ := exists_var_node t (getElem?_bfs_zero t) hx
  have hj₀ : P j₀ := ⟨x, getElem?_layout_nodes_eq_var_iff.mpr hvar, hσ⟩
  have hbound : ∀ {j}, P j → j ≤ t.size := fun ⟨y, hy, _⟩ => by
    have := (List.getElem?_eq_some_iff.mp hy).1
    rw [layout_nodes, length_numberFrom, length_bfs] at this
    omega
  obtain ⟨y, hy, hyσ⟩ := Nat.findGreatest_spec (hbound hj₀) hj₀
  refine ⟨Nat.findGreatest P t.size, y, hy, hyσ, fun j z hj hz hzσ => ?_⟩
  have hPj : P j := ⟨z, hz, hzσ⟩
  exact Nat.findGreatest_is_greatest hj (hbound hPj) hPj

theorem evaluate_cases (t : Formula) :
    ((∀ x ∈ t.vars, σ x ≠ none) ∧ t.evaluate σ = .ok (some (t.value fun x => (σ x).getD false))) ∨
      ∃ k y, t.LastUnbound σ k y ∧ t.evaluate σ = .error ⟨y⟩ := by
  by_cases hb : ∀ x ∈ t.vars, σ x ≠ none
  · exact .inl ⟨hb, evaluate_of_bound hb⟩
  · push Not at hb
    obtain ⟨x, hx, hσ⟩ := hb
    obtain ⟨k, y, hlast⟩ := exists_lastUnbound hx hσ
    exact .inr ⟨k, y, hlast, evaluate_of_lastUnbound hlast⟩

/-- Evaluation succeeds exactly when every variable is bound, with the formula's value; otherwise
it reports the variable of the unbound variable node with the largest index in the layout. -/
theorem evaluate_ok_iff_bound_error_iff_lastUnbound (t : Formula) (σ : Assignment) :
    (∀ v, t.evaluate σ = .ok v ↔ (∀ x ∈ t.vars, σ x ≠ none) ∧ v = some (t.value fun x => (σ x).getD false)) ∧
      (∀ x, t.evaluate σ = .error ⟨x⟩ ↔ ∃ k, t.LastUnbound σ k x) := by
  constructor
  · intro v
    constructor
    · intro h
      rcases evaluate_cases t with ⟨hb, hok⟩ | ⟨k, y, -, herr⟩
      · rw [hok] at h
        exact ⟨hb, (Except.ok.inj h).symm⟩
      · rw [herr] at h
        cases h
    · rintro ⟨hb, rfl⟩
      exact evaluate_of_bound hb
  · intro x
    constructor
    · intro h
      rcases evaluate_cases t with ⟨-, hok⟩ | ⟨k, y, hlast, herr⟩
      · rw [hok] at h
        cases h
      · rw [herr] at h
        cases h
        exact ⟨k, hlast⟩
    · rintro ⟨k, hlast⟩
      exact evaluate_of_lastUnbound hlast

end Formula

end PropCalc
