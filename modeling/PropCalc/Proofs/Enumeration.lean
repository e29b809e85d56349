import Mathlib
import PropCalc.Proofs.Evaluation
import PropCalc.Proofs.NormalForms

namespace PropCalc

namespace TruthTable

open Formula

theorem getElem?_rows_tabulate (t : Formula) (vs : VarSet) {i : Nat} (hi : i < 2 ^ vs.length) :
    (tabulate t vs).rows[i]? = some ⟨bitsOf vs.length i, t.value (assign vs (bitsOf vs.length i))⟩ := by
  simp [tabulate, hi, Nat.pow_eq]

theorem build_records_of_tooWide {t : Formula} {m : Memo} (hm : m.Valid t)
    (hw : maxVariables < t.vars.length) : (build t m).run.records = (t.variablesIn m).run.records := by
  obtain ⟨m', hvars, -⟩ := variablesIn_of_valid hm
  have h0 : t.vars ≠ [] := fun h => by simp [h] at hw
  simp [build, hvars, h0, hw]

/-- Building the table of a formula over `n` variables, from a valid memo. For `1 ≤ n ≤ 24` it is
the table over the formula's variables in increasing order with `2 ^ n` rows; row `i` holds bit
`n - 1 - j` of `i` for variable `j`, reads back as `i`, and has as its result the value that
evaluation under the row's assignment gives without failing, so the build does not stop. For
`n = 0` it is the constant function with the value under the empty assignment; for `n > 24` the
build stops before any row, with only the records of the variable query. -/
theorem build_enumerates_assignments (t : Formula) (m : Memo) (hm : m.Valid t) :
    (1 ≤ t.vars.length → t.vars.length ≤ maxVariables →
      ∃ T m', (build t m).run.value = .ok (.ok T, m') ∧ m'.Valid t ∧
        T.columns = t.vars ∧ VarSet.Increasing T.columns ∧ T.rows.length = 2 ^ t.vars.length ∧
        ∀ i < 2 ^ t.vars.length, ∃ r, T.rows[i]? = some r ∧
          r.values = (List.range t.vars.length).map (fun j => i.testBit (t.vars.length - 1 - j)) ∧
          r.index = i ∧ t.evaluate (fun v => (T.assignmentOf r).lookup v) = .ok (some r.result)) ∧
    (t.vars.length = 0 → ∃ v m', t.evaluate (fun _ => none) = .ok (some v) ∧
      (build t m).run.value = .ok (.error ⟨v⟩, m')) ∧
    (maxVariables < t.vars.length →
      (build t m).run.value = .error (.tooWide t.vars.length maxVariables) ∧
        (build t m).run.records = (t.variablesIn m).run.records) := by
  obtain ⟨m', hm', hbuild⟩ := build_value hm
  refine ⟨fun h1 hw => ?_, fun h0 => ?_, fun hw => ?_⟩
  · have h0 : t.vars ≠ [] := fun h => by simp [h] at h1
    refine ⟨tabulate t t.vars, m', by rw [hbuild, if_neg h0, if_neg (by omega)], hm', rfl,
      vars_increasing t, by simp [tabulate, Nat.pow_eq], fun i hi => ?_⟩
    refine ⟨_, getElem?_rows_tabulate t t.vars hi, rfl, valueOfBits_bitsOf hi, ?_⟩
    exact evaluate_row t _ (length_bitsOf _ i)
  · have hnil : t.vars = [] := List.length_eq_zero_iff.mp h0
    exact ⟨t.value fun _ => false, m', evaluate_of_bound fun x hx => by simp [hnil] at hx,
      by rw [hbuild, if_pos hnil]⟩
  · have h0 : t.vars ≠ [] := fun h => by simp [h] at hw
    exact ⟨by rw [hbuild, if_neg h0, if_pos hw], build_records_of_tooWide hm hw⟩

theorem build_enumerates_assignments_conjunction :
    ∃ t : Formula, t = .bin .and (.var ⟨'a', rfl⟩) (.var ⟨'b', rfl⟩) ∧ Memo.Valid t {} ∧
      1 ≤ t.vars.length ∧ t.vars.length ≤ maxVariables ∧
      ∃ T m', (build t {}).run.value = .ok (.ok T, m') ∧ m'.Valid t ∧
        T.columns = t.vars ∧ VarSet.Increasing T.columns ∧ T.rows.length = 2 ^ t.vars.length ∧
        ∀ i < 2 ^ t.vars.length, ∃ r, T.rows[i]? = some r ∧
          r.values = (List.range t.vars.length).map (fun j => i.testBit (t.vars.length - 1 - j)) ∧
          r.index = i ∧ t.evaluate (fun v => (T.assignmentOf r).lookup v) = .ok (some r.result) :=
  ⟨_, rfl, Memo.valid_empty _, by decide, by decide,
    (build_enumerates_assignments _ {} (Memo.valid_empty _)).1 (by decide) (by decide)⟩

end TruthTable

end PropCalc
