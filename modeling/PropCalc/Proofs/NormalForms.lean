import Mathlib
import PropCalc.Proofs.Tables

namespace PropCalc

namespace Formula

@[simp] theorem value_literal (v : Var) (b : Bool) (ρ : Var → Bool) :
    (literal v b).value ρ = (ρ v == b) := by
  cases b <;> simp [literal, value]

@[simp] theorem mem_vars_literal {v w : Var} {b : Bool} : w ∈ (literal v b).vars ↔ w = v := by
  cases b <;> simp [literal]

theorem value_eq_of_map_eq {t : Formula} {ρ σ : Var → Bool} (h : t.vars.map ρ = t.vars.map σ) :
    t.value ρ = t.value σ :=
  value_congr (List.map_inj_left.mp h)

end Formula

namespace TruthTable

/-! ### Rows in binary order -/

theorem bitsOf_inj {n i j : Nat} (hi : i < 2 ^ n) (hj : j < 2 ^ n) (h : bitsOf n i = bitsOf n j) :
    i = j := by
  apply Nat.eq_of_testBit_eq
  intro k
  by_cases hk : k < n
  · -- bit `k` stands at position `n - 1 - k`
    have hpos := congrArg (·[n - 1 - k]?) h
    have hback : n - 1 - (n - 1 - k) = k := by omega
    simpa [bitsOf, show n - 1 - k < n by omega, hback] using hpos
  · have hle : 2 ^ n ≤ 2 ^ k := Nat.pow_le_pow_right (by norm_num) (not_lt.mp hk)
    rw [Nat.testBit_eq_false_of_lt (lt_of_lt_of_le hi hle),
      Nat.testBit_eq_false_of_lt (lt_of_lt_of_le hj hle)]

theorem valueOfBits_bitsOf {n i : Nat} (hi : i < 2 ^ n) : valueOfBits (bitsOf n i) = i := by
  have hlen := length_bitsOf n i
  refine bitsOf_inj ?_ hi ?_
  · simpa [hlen] using valueOfBits_lt (bitsOf n i)
  · simpa [hlen] using bitsOf_valueOfBits (bitsOf n i)

theorem rows_increasing (t : Formula) (vs : VarSet) :
    (tabulate t vs).rows.Pairwise fun r s => valueOfBits r.values < valueOfBits s.values := by
  simp only [tabulate, List.pairwise_map, Nat.pow_eq]
  refine List.pairwise_lt_range.imp_of_mem fun ha hb hab => ?_
  rw [valueOfBits_bitsOf (List.mem_range.mp ha), valueOfBits_bitsOf (List.mem_range.mp hb)]
  exact hab

section Rows

variable {t : Formula}

/-- The table of a formula over its own variables has a row for each list of values of the
variables, with the formula's value under them. -/
theorem exists_row_iff {y : List Bool} {b : Bool} :
    (∃ r ∈ (tabulate t t.vars).rows, r.values = y ∧ r.result = b) ↔
      ∃ ρ, t.vars.map ρ = y ∧ t.value ρ = b := by
  constructor
  · rintro ⟨r, hr, rfl, rfl⟩
    obtain ⟨hlen, hres⟩ := mem_rows.mp hr
    exact ⟨assign t.vars r.values, map_assign t.vars_nodup hlen, hres.symm⟩
  · rintro ⟨ρ, rfl, rfl⟩
    refine ⟨⟨t.vars.map ρ, t.value ρ⟩, mem_rows.mpr ⟨List.length_map ρ, ?_⟩, rfl, rfl⟩
    exact value_eq_assign t.vars_nodup (fun _ h => h) ρ

theorem exists_row_map_iff (ρ : Var → Bool) (b : Bool) :
    (∃ r ∈ (tabulate t t.vars).rows, r.values = t.vars.map ρ ∧ r.result = b) ↔ t.value ρ = b := by
  rw [exists_row_iff]
  constructor
  · rintro ⟨σ, hσ, rfl⟩
    exact Formula.value_eq_of_map_eq hσ.symm
  · intro h
    exact ⟨ρ, rfl, h⟩

theorem length_of_mem_rows {r : Row} (hr : r ∈ (tabulate t t.vars).rows) :
    r.values.length = t.vars.length :=
  (mem_rows.mp hr).1

theorem exists_row_result (hk : ¬ t.IsConstant) (b : Bool) :
    ∃ r ∈ (tabulate t t.vars).rows, r.result = b := by
  obtain ⟨ρ, hρ⟩ := Formula.exists_value_eq_of_not_isConstant hk b
  obtain ⟨r, hr, -, hres⟩ := (exists_row_map_iff ρ b).mpr hρ
  exact ⟨r, hr, hres⟩

end Rows

/-! ### Clauses -/

theorem all_zip_beq (ρ : Var → Bool) :
    ∀ (vs : List Var) (y : List Bool), y.length = vs.length →
      (vs.zip y).all (fun p => ρ p.1 == p.2) = decide (vs.map ρ = y)
  | [], [], _ => rfl
  | v :: vs, b :: y, h => by
    rw [List.zip_cons_cons, List.all_cons, all_zip_beq ρ vs y (by simpa using h), List.map_cons]
    by_cases hv : ρ v = b <;> simp [hv]
  | [], _ :: _, h | _ :: _, [], h => by simp at h

/-- The clause of a row as a formula, the true constant standing in for a table without columns. -/
def rowClause (T : TruthTable) (r : Row) (op : Connective) (negatedAt : Bool) : Formula :=
  (Formula.chain op ((T.columns.zip r.values).map fun p => Formula.literal p.1 (p.2 != negatedAt))).getD
    (.const true)

section Clause

variable {T : TruthTable} {r : Row}

theorem zip_values_ne_nil (hlen : r.values.length = T.columns.length) (hne : T.columns ≠ []) :
    T.columns.zip r.values ≠ [] := by
  rw [Ne, List.zip_eq_nil_iff]
  rintro (h | h)
  · exact hne h
  · exact hne (List.length_eq_zero_iff.mp (by rw [← hlen, h, List.length_nil]))

theorem exists_chain_literals (hlen : r.values.length = T.columns.length) (hne : T.columns ≠ [])
    (op : Connective) (negatedAt : Bool) :
    ∃ f, Formula.chain op ((T.columns.zip r.values).map fun p => Formula.literal p.1 (p.2 != negatedAt)) =
      some f :=
  Formula.exists_chain_eq_some op (mt List.map_eq_nil_iff.mp (zip_values_ne_nil hlen hne))

theorem clause_eq_ok (hlen : r.values.length = T.columns.length) (hne : T.columns ≠ [])
    (op : Connective) (negatedAt : Bool) : T.clause r op negatedAt = .ok (T.rowClause r op negatedAt) := by
  obtain ⟨f, hf⟩ := exists_chain_literals hlen hne op negatedAt
  unfold clause rowClause
  rw [hf]
  rfl

theorem value_clause_and (hlen : r.values.length = T.columns.length) (ρ : Var → Bool) :
    (T.rowClause r .and false).value ρ = decide (T.columns.map ρ = r.values) := by
  rw [rowClause, Formula.value_getD_chain_and, List.all_map, ← all_zip_beq ρ _ _ hlen]
  congr 1
  funext p
  simp

theorem value_clause_or (hlen : r.values.length = T.columns.length) (hne : T.columns ≠ [])
    (ρ : Var → Bool) : (T.rowClause r .or true).value ρ = !decide (T.columns.map ρ = r.values) := by
  obtain ⟨f, hf⟩ := exists_chain_literals hlen hne .or true
  rw [rowClause, hf, Option.getD_some, Formula.value_chain_or hf, List.any_map,
    ← all_zip_beq ρ _ _ hlen, List.not_all_eq_any_not]
  congr 1
  funext p
  rcases p with ⟨v, b⟩
  cases b <;> simp

theorem mem_vars_clause (hlen : r.values.length = T.columns.length) (op : Connective)
    (negatedAt : Bool) (v : Var) : v ∈ (T.rowClause r op negatedAt).vars ↔ v ∈ T.columns := by
  rw [rowClause, Formula.mem_vars_getD_chain]
  have hfst : (T.columns.zip r.values).map Prod.fst = T.columns := List.map_fst_zip hlen.ge
  constructor
  · rintro ⟨_, hx, hv⟩
    obtain ⟨p, hp, rfl⟩ := List.mem_map.mp hx
    have hvp : v = p.1 := by simpa using hv
    rw [hvp, ← hfst]
    exact List.mem_map_of_mem hp
  · intro hv
    rw [← hfst] at hv
    obtain ⟨p, hp, rfl⟩ := List.mem_map.mp hv
    exact ⟨_, List.mem_map_of_mem hp, by simp⟩

end Clause

/-! ### The two forms -/

theorem mapM_eq_ok {ε α β : Type} {f : α → Except ε β} {g : α → β} :
    ∀ xs : List α, (∀ x ∈ xs, f x = .ok (g x)) → xs.mapM f = .ok (xs.map g)
  | [], _ => rfl
  | x :: xs, h => by
    rw [List.mapM_cons, h x List.mem_cons_self, mapM_eq_ok xs fun y hy => h y (List.mem_cons_of_mem x hy)]
    rfl

section Forms

variable {t : Formula} {f : Formula}

/-- Over a formula's variables every clause is made, so the full disjunctive form is the chain of
the minterms of the satisfying rows. -/
theorem fullDisjunctive_tabulate (hne : t.vars ≠ []) :
    (tabulate t t.vars).fullDisjunctive =
      .ok (Formula.chain .or ((tabulate t t.vars).satisfying.map fun r => (tabulate t t.vars).rowClause r .and false)) := by
  rw [fullDisjunctive,
    mapM_eq_ok (tabulate t t.vars).satisfying
      fun r hr => clause_eq_ok (length_of_mem_rows (List.mem_of_mem_filter hr)) hne .and false]
  rfl

theorem fullConjunctive_tabulate (hne : t.vars ≠ []) :
    (tabulate t t.vars).fullConjunctive =
      .ok (Formula.chain .and ((tabulate t t.vars).falsifying.map fun r => (tabulate t t.vars).rowClause r .or true)) := by
  rw [fullConjunctive,
    mapM_eq_ok (tabulate t t.vars).falsifying
      fun r hr => clause_eq_ok (length_of_mem_rows (List.mem_of_mem_filter hr)) hne .or true]
  rfl

theorem value_fullDisjunctive
    (hf : Formula.chain .or ((tabulate t t.vars).satisfying.map fun r => (tabulate t t.vars).rowClause r .and false) = some f)
    (ρ : Var → Bool) : f.value ρ = t.value ρ := by
  rw [Formula.value_chain_or hf, List.any_map]
  refine Bool.eq_iff_iff.mpr ?_
  rw [List.any_eq_true, ← exists_row_map_iff ρ true]
  simp only [satisfying, List.mem_filter, Function.comp_apply]
  constructor
  · rintro ⟨r, ⟨hr, hres⟩, hclause⟩
    rw [value_clause_and (length_of_mem_rows hr), decide_eq_true_eq] at hclause
    exact ⟨r, hr, hclause.symm, hres⟩
  · rintro ⟨r, hr, hvals, hres⟩
    refine ⟨r, ⟨hr, hres⟩, ?_⟩
    rw [value_clause_and (length_of_mem_rows hr), decide_eq_true_eq]
    exact hvals.symm

theorem value_fullConjunctive (hne : t.vars ≠ [])
    (hf : Formula.chain .and ((tabulate t t.vars).falsifying.map fun r => (tabulate t t.vars).rowClause r .or true) = some f)
    (ρ : Var → Bool) : f.value ρ = t.value ρ := by
  rw [Formula.value_chain_and hf, List.all_map]
  refine Bool.eq_iff_iff.mpr ?_
  have hrow := exists_row_map_iff (t := t) ρ false
  simp only [falsifying, List.all_eq_true, List.mem_filter, Bool.not_eq_true', Function.comp_apply]
  constructor
  · intro hall
    -- the conjunction holds, so `ρ` is at no falsifying row
    by_contra hfalse
    obtain ⟨r, hr, hvals, hres⟩ := hrow.mpr (Bool.eq_false_iff.mpr hfalse)
    have h := hall r ⟨hr, hres⟩
    rw [value_clause_or (length_of_mem_rows hr) hne, hvals] at h
    simp at h
  · rintro htrue r ⟨hr, hres⟩
    rw [value_clause_or (length_of_mem_rows hr) hne, Bool.not_eq_true', decide_eq_false_iff_not]
    intro hvals
    have hfalse : t.value ρ = false := hrow.mp ⟨r, hr, hvals.symm, hres⟩
    rw [hfalse] at htrue
    exact Bool.false_ne_true htrue

end Forms

/-! ### Chains of row clauses -/

section Chains

variable {t f : Formula} {op inner : Connective} {negatedAt : Bool} {rs : List Row}

theorem mem_vars_chain_clauses (hrs : ∀ r ∈ rs, r ∈ (tabulate t t.vars).rows)
    (hf : Formula.chain op (rs.map fun r => (tabulate t t.vars).rowClause r inner negatedAt) = some f)
    (v : Var) : v ∈ f.vars ↔ v ∈ t.vars := by
  rw [Formula.mem_vars_of_chain hf]
  constructor
  · rintro ⟨_, hx, hv⟩
    obtain ⟨r, hr, rfl⟩ := List.mem_map.mp hx
    exact (mem_vars_clause (length_of_mem_rows (hrs r hr)) _ _ v).mp hv
  · intro hv
    -- a chain has a member, so some row is listed
    obtain ⟨r, hr⟩ : ∃ r, r ∈ rs := by
      cases rs with
      | nil => cases hf
      | cons r _ => exact ⟨r, List.mem_cons_self⟩
    exact ⟨_, List.mem_map_of_mem hr, (mem_vars_clause (length_of_mem_rows (hrs r hr)) _ _ v).mpr hv⟩

theorem vars_chain_clauses (hrs : ∀ r ∈ rs, r ∈ (tabulate t t.vars).rows)
    (hf : Formula.chain op (rs.map fun r => (tabulate t t.vars).rowClause r inner negatedAt) = some f) :
    f.vars = t.vars :=
  VarSet.Increasing.eq_of_mem_iff f.vars_increasing t.vars_increasing (mem_vars_chain_clauses hrs hf)

end Chains

end TruthTable

namespace Formula

open TruthTable

/-- `f` is the `outer` chain, over the rows where `t` takes the value `b` in increasing binary
order, of the `inner` chains of the literals of all of `t`'s variables in order, a variable being
negated exactly where the row gives it `!b`. -/
def IsFullForm (t : Formula) (b : Bool) (outer inner : Connective) (f : Formula) : Prop :=
  ∃ ys : List (List Bool), ys.Pairwise (fun y z => valueOfBits y < valueOfBits z) ∧
    (∀ y, y ∈ ys ↔ ∃ ρ : Var → Bool, t.vars.map ρ = y ∧ t.value ρ = b) ∧
    ∃ cs : List Formula,
      List.Forall₂ (fun y c => chain inner ((t.vars.zip y).map fun p => literal p.1 (p.2 == b)) = some c)
        ys cs ∧
      chain outer cs = some f

variable {t f : Formula} {b : Bool} {outer inner : Connective} {rs : List Row}

theorem chain_literals_eq {r : Row} (hne : t.vars ≠ []) (hr : r ∈ (tabulate t t.vars).rows) :
    chain inner ((t.vars.zip r.values).map fun p => literal p.1 (p.2 == b)) =
      some ((tabulate t t.vars).rowClause r inner (!b)) := by
  have hlit : (fun p : Var × Bool => literal p.1 (p.2 != !b)) = fun p => literal p.1 (p.2 == b) := by
    funext p
    cases p.2 <;> cases b <;> rfl
  obtain ⟨g, hg⟩ := TruthTable.exists_chain_literals (T := tabulate t t.vars) (length_of_mem_rows hr)
    (by rwa [columns_tabulate]) inner (!b)
  rw [columns_tabulate, hlit] at hg
  rw [rowClause, columns_tabulate, hlit, hg, Option.getD_some]

theorem isFullForm_of_chain (hne : t.vars ≠ []) (hsub : rs.Sublist (tabulate t t.vars).rows)
    (hmem : ∀ r ∈ (tabulate t t.vars).rows, r ∈ rs ↔ r.result = b)
    (hf : chain outer (rs.map fun r => (tabulate t t.vars).rowClause r inner (!b)) = some f) :
    t.IsFullForm b outer inner f := by
  refine ⟨rs.map Row.values, List.pairwise_map.mpr ((rows_increasing t t.vars).sublist hsub),
    fun y => ?_, _, ?_, hf⟩
  · rw [← exists_row_iff, List.mem_map]
    constructor
    · rintro ⟨r, hr, rfl⟩
      exact ⟨r, hsub.subset hr, rfl, (hmem r (hsub.subset hr)).mp hr⟩
    · rintro ⟨r, hr, rfl, hres⟩
      exact ⟨r, (hmem r hr).mpr hres, rfl⟩
  · rw [List.forall₂_map_left_iff, List.forall₂_map_right_iff, List.forall₂_same]
    exact fun r hr => chain_literals_eq hne (hsub.subset hr)

end Formula

namespace TruthTable

section Forms

variable {t f : Formula}

theorem exists_fullDisjunctive (hk : ¬ t.IsConstant) :
    ∃ f, (tabulate t t.vars).fullDisjunctive = .ok (some f) := by
  obtain ⟨r, hr, hres⟩ := exists_row_result hk true
  have hsat : r ∈ (tabulate t t.vars).satisfying := List.mem_filter.mpr ⟨hr, hres⟩
  obtain ⟨f, hf⟩ := Formula.exists_chain_eq_some .or (List.ne_nil_of_mem (List.mem_map_of_mem hsat))
  exact ⟨f, by rw [fullDisjunctive_tabulate (Formula.vars_ne_nil_of_not_isConstant hk), hf]⟩

theorem exists_fullConjunctive (hk : ¬ t.IsConstant) :
    ∃ f, (tabulate t t.vars).fullConjunctive = .ok (some f) := by
  obtain ⟨r, hr, hres⟩ := exists_row_result hk false
  have hfal : r ∈ (tabulate t t.vars).falsifying := List.mem_filter.mpr ⟨hr, by simp [hres]⟩
  obtain ⟨f, hf⟩ := Formula.exists_chain_eq_some .and (List.ne_nil_of_mem (List.mem_map_of_mem hfal))
  exact ⟨f, by rw [fullConjunctive_tabulate (Formula.vars_ne_nil_of_not_isConstant hk), hf]⟩

/-- The full disjunctive form computes the formula over its variables, as the disjunction of the
minterms of the satisfying rows. -/
theorem fullDisjunctive_spec (hk : ¬ t.IsConstant) (hf : (tabulate t t.vars).fullDisjunctive = .ok (some f)) :
    (∀ ρ, f.value ρ = t.value ρ) ∧ f.vars = t.vars ∧ t.IsFullForm true .or .and f := by
  rw [fullDisjunctive_tabulate (Formula.vars_ne_nil_of_not_isConstant hk), Except.ok.injEq] at hf
  have hrows : ∀ r ∈ (tabulate t t.vars).satisfying, r ∈ (tabulate t t.vars).rows :=
    fun _ hr => List.mem_of_mem_filter hr
  refine ⟨value_fullDisjunctive hf, vars_chain_clauses hrows hf, ?_⟩
  exact Formula.isFullForm_of_chain (Formula.vars_ne_nil_of_not_isConstant hk) List.filter_sublist
    (fun r hr => by simp [hr]) hf

theorem fullConjunctive_spec (hk : ¬ t.IsConstant) (hf : (tabulate t t.vars).fullConjunctive = .ok (some f)) :
    (∀ ρ, f.value ρ = t.value ρ) ∧ f.vars = t.vars ∧ t.IsFullForm false .and .or f := by
  rw [fullConjunctive_tabulate (Formula.vars_ne_nil_of_not_isConstant hk), Except.ok.injEq] at hf
  have hrows : ∀ r ∈ (tabulate t t.vars).falsifying, r ∈ (tabulate t t.vars).rows :=
    fun _ hr => List.mem_of_mem_filter hr
  have hne := Formula.vars_ne_nil_of_not_isConstant hk
  refine ⟨value_fullConjunctive hne hf, vars_chain_clauses hrows hf, ?_⟩
  exact Formula.isFullForm_of_chain hne List.filter_sublist
    (fun r hr => by simp [hr]) hf

end Forms

end TruthTable

namespace Calculator

variable {c : Calculator}

theorem fullDisjunctive_of_not_isConstant (hc : c.Coherent) (h : c.formula.vars.length ≤ maxVariables)
    (hk : ¬ c.formula.IsConstant) :
    ∃ f c', fullDisjunctive.outcome c = .ok (.ok f, c') ∧ c'.formula = c.formula ∧ c'.Coherent ∧
      (TruthTable.tabulate c.formula c.formula.vars).fullDisjunctive = .ok (some f) := by
  obtain ⟨c', hout, hf, hc'⟩ := nonConstantTable_of_not_isConstant hc h hk
  obtain ⟨f, hform⟩ := TruthTable.exists_fullDisjunctive hk
  refine ⟨f, c', ?_, hf, hc', hform⟩
  simp [fullDisjunctive, hout, hform, note]

theorem fullConjunctive_of_not_isConstant (hc : c.Coherent) (h : c.formula.vars.length ≤ maxVariables)
    (hk : ¬ c.formula.IsConstant) :
    ∃ f c', fullConjunctive.outcome c = .ok (.ok f, c') ∧ c'.formula = c.formula ∧ c'.Coherent ∧
      (TruthTable.tabulate c.formula c.formula.vars).fullConjunctive = .ok (some f) := by
  obtain ⟨c', hout, hf, hc'⟩ := nonConstantTable_of_not_isConstant hc h hk
  obtain ⟨f, hform⟩ := TruthTable.exists_fullConjunctive hk
  refine ⟨f, c', ?_, hf, hc', hform⟩
  simp [fullConjunctive, hout, hform, note]

/-- Both full normal forms of a formula with at most `maxVariables` variables that is not
constant exist. Each takes the formula's value under every assignment and has exactly its
variables. The disjunctive form joins, over the satisfying rows in increasing order, the
conjunctions of all variables negated where the row gives `0`; the conjunctive form joins, over
the falsifying rows, the disjunctions of all variables negated where the row gives `1`. -/
theorem fullForms_of_not_isConstant (c : Calculator) (hc : c.Coherent)
    (h : c.formula.vars.length ≤ maxVariables) (hk : ¬ c.formula.IsConstant) :
    (∃ f c', fullDisjunctive.outcome c = .ok (.ok f, c') ∧ c'.formula = c.formula ∧ c'.Coherent ∧
      (∀ ρ, f.value ρ = c.formula.value ρ) ∧ f.vars = c.formula.vars ∧
      c.formula.IsFullForm true .or .and f) ∧
    (∃ f c', fullConjunctive.outcome c = .ok (.ok f, c') ∧ c'.formula = c.formula ∧ c'.Coherent ∧
      (∀ ρ, f.value ρ = c.formula.value ρ) ∧ f.vars = c.formula.vars ∧
      c.formula.IsFullForm false .and .or f) := by
  constructor
  · obtain ⟨f, c', hout, hf, hc', hform⟩ := fullDisjunctive_of_not_isConstant hc h hk
    exact ⟨f, c', hout, hf, hc', TruthTable.fullDisjunctive_spec hk hform⟩
  · obtain ⟨f, c', hout, hf, hc', hform⟩ := fullConjunctive_of_not_isConstant hc h hk
    exact ⟨f, c', hout, hf, hc', TruthTable.fullConjunctive_spec hk hform⟩

theorem fullForms_of_not_isConstant_xor :
    ∃ c : Calculator, c.formula = .bin .xor (.var ⟨'a', rfl⟩) (.var ⟨'b', rfl⟩) ∧
      c.Coherent ∧ c.formula.vars.length ≤ maxVariables ∧ ¬ c.formula.IsConstant ∧
      (∃ f c', fullDisjunctive.outcome c = .ok (.ok f, c') ∧ c'.formula = c.formula ∧ c'.Coherent ∧
        (∀ ρ, f.value ρ = c.formula.value ρ) ∧ f.vars = c.formula.vars ∧
        c.formula.IsFullForm true .or .and f) ∧
      (∃ f c', fullConjunctive.outcome c = .ok (.ok f, c') ∧ c'.formula = c.formula ∧ c'.Coherent ∧
        (∀ ρ, f.value ρ = c.formula.value ρ) ∧ f.vars = c.formula.vars ∧
        c.formula.IsFullForm false .and .or f) :=
  let c : Calculator := { formula := .bin .xor (.var ⟨'a', rfl⟩) (.var ⟨'b', rfl⟩) }
  have hc : c.Coherent := coherent_of_fresh rfl rfl
  -- `a` alone true makes the exclusive or true
  have hk : ¬ c.formula.IsConstant := fun h =>
    absurd (h (fun v => decide (v.name = 'a')) (fun _ => false)) (by decide)
  ⟨c, rfl, hc, by decide, hk, fullForms_of_not_isConstant c hc (by decide) hk⟩

end Calculator

end PropCalc
