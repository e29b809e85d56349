import Mathlib
import PropCalc.Calculator
import PropCalc.Proofs.Evaluation
import PropCalc.Proofs.VariableMemo

namespace PropCalc

namespace Session

variable {α β : Type}

/-- A session run on a calculator: its result and the calculator after it, or the failure that
stopped it. The records it leaves are not part of the outcome. -/
def outcome (x : Session α) (c : Calculator) : Except Panic (α × Calculator) :=
  (x.run c).run.value

@[simp] theorem outcome_pure (a : α) (c : Calculator) : (pure a : Session α).outcome c = .ok (a, c) :=
  rfl

@[simp] theorem outcome_bind (x : Session α) (f : α → Session β) (c : Calculator) :
    (x >>= f).outcome c = match x.outcome c with
      | .ok (a, c') => (f a).outcome c'
      | .error e => .error e := by
  simp only [outcome, StateT.run_bind, ExceptT.run_bind]
  show ((x.run c).run >>= _).value = _
  rw [Traced.bind_value]
  rcases (x.run c).run.value with e | ⟨a, c'⟩ <;> rfl

@[simp] theorem outcome_get (c : Calculator) : (get : Session Calculator).outcome c = .ok (c, c) :=
  rfl

@[simp] theorem outcome_set (c c' : Calculator) : (set c' : Session PUnit).outcome c = .ok (⟨⟩, c') :=
  rfl

@[simp] theorem outcome_modify (f : Calculator → Calculator) (c : Calculator) :
    (modify f : Session PUnit).outcome c = .ok (⟨⟩, f c) := rfl

@[simp] theorem outcome_throw (p : Panic) (c : Calculator) : (throw p : Session α).outcome c = .error p :=
  rfl

@[simp] theorem outcome_lift (x : ExceptT Panic Traced α) (c : Calculator) :
    outcome (StateT.lift x : Session α) c = match x.run.value with
      | .ok a => .ok (a, c)
      | .error e => .error e := by
  simp only [outcome, StateT.run_lift, ExceptT.run_bind]
  show (x.run >>= _).value = _
  rw [Traced.bind_value]
  rcases x.run.value with e | a <;> rfl

end Session

namespace Formula

theorem isConstant_of_vars_eq_nil {t : Formula} (h : t.vars = []) : t.IsConstant :=
  fun ρ σ => value_congr fun v hv => by simp [h] at hv

theorem vars_ne_nil_of_not_isConstant {t : Formula} (hk : ¬ t.IsConstant) : t.vars ≠ [] :=
  fun h => hk (isConstant_of_vars_eq_nil h)

end Formula

namespace TruthTable

/-- The assignment that gives the listed variables the listed values, and `false` to others. -/
def assign (vs : VarSet) (values : List Bool) (v : Var) : Bool :=
  ((vs.zip values).find? (fun p => p.1 = v)).elim false Prod.snd

/-- The table of a formula over the given variables, as the rows of a build should read. -/
def tabulate (t : Formula) (vs : VarSet) : TruthTable where
  columns := vs
  rows := (List.range (Nat.pow 2 vs.length)).map fun i =>
    let values := bitsOf vs.length i
    ⟨values, t.value (assign vs values)⟩

/-! ### Rows as binary numbers -/

/-- The number a list of values spells in binary, the first value most significant. -/
def valueOfBits (x : List Bool) : Nat := x.foldl (fun acc b => 2 * acc + (if b then 1 else 0)) 0

theorem foldl_bits (x : List Bool) (acc : Nat) :
    x.foldl (fun acc b => 2 * acc + (if b then 1 else 0)) acc = acc * 2 ^ x.length + valueOfBits x := by
  induction x generalizing acc with
  | nil => simp [valueOfBits]
  | cons b x ih =>
    have hb : valueOfBits (b :: x) = (if b then 1 else 0) * 2 ^ x.length + valueOfBits x := by
      simp only [valueOfBits, List.foldl_cons, Nat.mul_zero, Nat.zero_add]
      exact ih _
    rw [List.foldl_cons, ih, hb, List.length_cons, Nat.pow_succ]
    ring

theorem valueOfBits_cons (b : Bool) (x : List Bool) :
    valueOfBits (b :: x) = (if b then 2 ^ x.length else 0) + valueOfBits x := by
  have h := foldl_bits x (if b then 1 else 0)
  simp only [valueOfBits, List.foldl_cons, Nat.mul_zero, Nat.zero_add] at h ⊢
  rw [h]
  cases b <;> simp

theorem valueOfBits_lt (x : List Bool) : valueOfBits x < 2 ^ x.length := by
  induction x with
  | nil => simp [valueOfBits]
  | cons b x ih =>
    rw [valueOfBits_cons, List.length_cons, Nat.pow_succ]
    cases b <;> simp <;> omega

@[simp] theorem length_bitsOf (n i : Nat) : (bitsOf n i).length = n := by
  simp [bitsOf]

theorem bitsOf_succ (n i : Nat) : bitsOf (n + 1) i = i.testBit n :: bitsOf n i := by
  simp only [bitsOf, List.range_succ_eq_map, List.map_cons, List.map_map, Nat.add_sub_cancel,
    Nat.sub_zero, List.cons.injEq, true_and]
  refine List.map_congr_left fun j _ => ?_
  simp only [Function.comp_apply]
  congr 1
  omega

theorem bitsOf_two_pow_add (n i : Nat) : bitsOf n (2 ^ n + i) = bitsOf n i := by
  refine List.map_congr_left fun j hj => ?_
  have hj : j < n := List.mem_range.mp hj
  exact Nat.testBit_two_pow_add_gt (by omega) i

theorem bitsOf_valueOfBits (x : List Bool) : bitsOf x.length (valueOfBits x) = x := by
  induction x with
  | nil => rfl
  | cons b x ih =>
    have hlow : (valueOfBits x).testBit x.length = false :=
      Nat.testBit_lt_two_pow (valueOfBits_lt x)
    rw [List.length_cons, bitsOf_succ, valueOfBits_cons]
    cases b with
    | false => simp [hlow, ih]
    | true =>
      rw [if_pos rfl, Nat.testBit_two_pow_add_eq, hlow, bitsOf_two_pow_add, ih]
      rfl

theorem exists_bitsOf_iff {m : Nat} {P : List Bool → Prop} :
    (∃ i < 2 ^ m, P (bitsOf m i)) ↔ ∃ z, z.length = m ∧ P z := by
  constructor
  · rintro ⟨i, -, hi⟩
    exact ⟨_, length_bitsOf m i, hi⟩
  · rintro ⟨z, rfl, hz⟩
    exact ⟨valueOfBits z, valueOfBits_lt z, by rwa [bitsOf_valueOfBits]⟩

/-! ### Assignments read from rows -/

theorem assign_cons (w : Var) (vs : VarSet) (b : Bool) (x : List Bool) (v : Var) :
    assign (w :: vs) (b :: x) v = if w = v then b else assign vs x v := by
  by_cases h : w = v <;> simp [assign, h]

theorem map_assign {vs : VarSet} (hvs : vs.Nodup) {x : List Bool} (hx : x.length = vs.length) :
    vs.map (assign vs x) = x := by
  induction vs generalizing x with
  | nil => simp_all
  | cons w vs ih =>
    obtain ⟨b, x, rfl⟩ := List.exists_cons_of_length_eq_add_one hx
    have hw := List.nodup_cons.mp hvs
    have hrest : vs.map (assign (w :: vs) (b :: x)) = vs.map (assign vs x) :=
      List.map_congr_left fun v hv => by
        rw [assign_cons, if_neg (fun e : w = v => hw.1 (by rwa [e]))]
    simp [assign_cons, hrest, ih hw.2 (by simpa using hx)]

theorem assign_map {vs : VarSet} (hvs : vs.Nodup) (ρ : Var → Bool) :
    ∀ v ∈ vs, assign vs (vs.map ρ) v = ρ v :=
  List.map_inj_left.mp (map_assign hvs (List.length_map ρ))

theorem value_eq_assign {t : Formula} {vs : VarSet} (hvs : vs.Nodup) (hsub : ∀ v ∈ t.vars, v ∈ vs)
    (ρ : Var → Bool) : t.value ρ = t.value (assign vs (vs.map ρ)) :=
  Formula.value_congr fun v hv => (assign_map hvs ρ v (hsub v hv)).symm

theorem map_update_split {cs₁ cs₂ : VarSet} {v : Var} (hvs : (cs₁ ++ v :: cs₂).Nodup)
    (ρ : Var → Bool) (b : Bool) :
    (cs₁ ++ v :: cs₂).map (Function.update ρ v b) = cs₁.map ρ ++ b :: cs₂.map ρ := by
  have hv := List.nodup_middle.mp hvs
  have hv₁ : v ∉ cs₁ := fun h => (List.nodup_cons.mp hv).1 (List.mem_append_left cs₂ h)
  have hv₂ : v ∉ cs₂ := fun h => (List.nodup_cons.mp hv).1 (List.mem_append_right cs₁ h)
  have hother : ∀ cs : VarSet, v ∉ cs → cs.map (Function.update ρ v b) = cs.map ρ :=
    fun cs hcs => List.map_congr_left fun w hw =>
      Function.update_of_ne (fun e : w = v => hcs (by rwa [← e])) b ρ
  simp [hother cs₁ hv₁, hother cs₂ hv₂]

theorem map_assign_split {cs₁ cs₂ : VarSet} {v : Var} (hvs : (cs₁ ++ v :: cs₂).Nodup)
    {y₁ y₂ : List Bool} {b : Bool} (h₁ : y₁.length = cs₁.length) (h₂ : y₂.length = cs₂.length) :
    cs₁.map (assign (cs₁ ++ v :: cs₂) (y₁ ++ b :: y₂)) = y₁ ∧
      cs₂.map (assign (cs₁ ++ v :: cs₂) (y₁ ++ b :: y₂)) = y₂ := by
  have h := map_assign hvs (x := y₁ ++ b :: y₂) (by simp [h₁, h₂])
  rw [List.map_append, List.map_cons] at h
  obtain ⟨e₁, e₂⟩ := List.append_inj h (by simp [h₁])
  exact ⟨e₁, (List.cons.inj e₂).2⟩

/-! ### The rows of a table -/

theorem mem_rows {t : Formula} {vs : VarSet} {r : Row} :
    r ∈ (tabulate t vs).rows ↔ r.values.length = vs.length ∧ r.result = t.value (assign vs r.values) := by
  constructor
  · simp only [tabulate, List.mem_map, List.mem_range]
    rintro ⟨i, -, rfl⟩
    simp
  · rintro ⟨hlen, hres⟩
    simp only [tabulate, List.mem_map, List.mem_range, Nat.pow_eq]
    refine ⟨valueOfBits r.values, hlen ▸ valueOfBits_lt r.values, ?_⟩
    rw [← hlen, bitsOf_valueOfBits, ← hres]

@[simp] theorem columns_tabulate (t : Formula) (vs : VarSet) : (tabulate t vs).columns = vs := rfl

theorem mem_satisfying_values {t : Formula} {vs : VarSet} {y : List Bool} :
    y ∈ (tabulate t vs).satisfying.map Row.values ↔
      y.length = vs.length ∧ t.value (assign vs y) = true := by
  simp only [satisfying, List.mem_map, List.mem_filter, mem_rows]
  constructor
  · rintro ⟨r, ⟨⟨hlen, hres⟩, htrue⟩, rfl⟩
    exact ⟨hlen, hres ▸ htrue⟩
  · rintro ⟨hlen, htrue⟩
    exact ⟨⟨y, t.value (assign vs y)⟩, ⟨⟨hlen, rfl⟩, htrue⟩, rfl⟩

theorem rows_ne_nil (t : Formula) (vs : VarSet) : (tabulate t vs).rows ≠ [] := by
  simp [tabulate, Nat.pow_eq]

theorem constantValue?_eq_some_iff {T : TruthTable} {b : Bool} :
    T.constantValue? = some b ↔ T.rows ≠ [] ∧ ∀ r ∈ T.rows, r.result = b := by
  unfold constantValue?
  split
  case h_1 h => simp [h]
  case h_2 r rs h =>
    simp only [h, ne_eq, reduceCtorEq, not_false_eq_true, List.mem_cons, forall_eq_or_imp,
      true_and]
    split_ifs with hall
    · have hrs : ∀ s ∈ rs, s.result = r.result := by simpa using hall
      constructor
      · rintro ⟨⟩
        exact ⟨rfl, fun s hs => hrs s hs⟩
      · rintro ⟨rfl, -⟩
        rfl
    · simp only [List.all_eq_true, beq_iff_eq, not_forall] at hall
      obtain ⟨s, hs, hne⟩ := hall
      simp only [false_iff, not_and]
      rintro rfl hrs
      exact hne (hrs s hs)

section Columns

variable {t : Formula} {vs : VarSet}

theorem constantValue?_of_isConstant (h : t.IsConstant) :
    (tabulate t vs).constantValue? = some (t.value fun _ => false) :=
  constantValue?_eq_some_iff.mpr ⟨rows_ne_nil t vs, fun _ hr => (mem_rows.mp hr).2.trans (h _ _)⟩

theorem isConstant_of_constantValue? (hvs : vs.Nodup) (hsub : ∀ v ∈ t.vars, v ∈ vs) {b : Bool}
    (h : (tabulate t vs).constantValue? = some b) : t.IsConstant := by
  have hrow : ∀ ρ, t.value ρ = b := by
    intro ρ
    have hr : (⟨vs.map ρ, t.value (assign vs (vs.map ρ))⟩ : Row) ∈ (tabulate t vs).rows :=
      mem_rows.mpr ⟨List.length_map ρ, rfl⟩
    rw [value_eq_assign hvs hsub ρ]
    exact (constantValue?_eq_some_iff.mp h).2 _ hr
  intro ρ σ
  rw [hrow ρ, hrow σ]

end Columns

/-! ### Building a table -/

theorem getD_lookup_zip (vs : VarSet) (values : List Bool) (v : Var) :
    ((vs.zip values).lookup v).getD false = assign vs values v := by
  unfold assign
  induction vs.zip values with
  | nil => rfl
  | cons p l ih =>
    obtain ⟨w, b⟩ := p
    by_cases h : w = v
    · subst h
      simp [List.lookup]
    · have hne : (v == w) = false := beq_false_of_ne (Ne.symm h)
      simp [List.lookup, hne, h, ih]

theorem lookup_zip_ne_none {vs : VarSet} {values : List Bool} (hlen : values.length = vs.length)
    {v : Var} (hv : v ∈ vs) : (vs.zip values).lookup v ≠ none := by
  induction vs generalizing values with
  | nil => cases hv
  | cons w vs ih =>
    obtain ⟨b, values, rfl⟩ := List.exists_cons_of_length_eq_add_one hlen
    by_cases h : v = w
    · simp [h]
    · have hne : (v == w) = false := beq_false_of_ne h
      simp only [List.zip_cons_cons, List.lookup, hne]
      exact ih (by simpa using hlen) (List.mem_of_ne_of_mem h hv)

theorem evaluate_row (t : Formula) (values : List Bool) (hlen : values.length = t.vars.length) :
    t.evaluate (fun v => (t.vars.zip values).lookup v) = .ok (some (t.value (assign t.vars values))) := by
  rw [Formula.evaluate_of_bound fun x hx => lookup_zip_ne_none hlen hx]
  congr 3
  funext v
  exact getD_lookup_zip t.vars values v

theorem mapM_loop_value {ε α β : Type} {f : α → ExceptT ε Traced β} {g : α → β} :
    ∀ (xs : List α) (acc : List β), (∀ x ∈ xs, (f x).run.value = .ok (g x)) →
      (List.mapM.loop f xs acc).run.value = .ok (acc.reverse ++ xs.map g)
  | [], acc, _ => by simp [List.mapM.loop]
  | x :: xs, acc, h => by
    rw [List.mapM.loop, Traced.exceptBind_value, h x List.mem_cons_self]
    dsimp only
    rw [mapM_loop_value xs _ fun y hy => h y (List.mem_cons_of_mem x hy)]
    simp

theorem mapM_value {ε α β : Type} {f : α → ExceptT ε Traced β} {g : α → β} (xs : List α)
    (h : ∀ x ∈ xs, (f x).run.value = .ok (g x)) : (xs.mapM f).run.value = .ok (xs.map g) := by
  rw [List.mapM, mapM_loop_value xs [] h]
  rfl

/-- What building a table from a valid memo gives: the constant function of a formula without
variables, a stop for a formula over too many variables, and otherwise the table over its
variables, every row evaluated without failing; the memo it leaves stays valid. -/
theorem build_value {t : Formula} {m : Memo} (hm : m.Valid t) :
    ∃ m', m'.Valid t ∧ (build t m).run.value =
      if t.vars = [] then .ok (.error ⟨t.value fun _ => false⟩, m')
      else if maxVariables < t.vars.length then .error (.tooWide t.vars.length maxVariables)
      else .ok (.ok (tabulate t t.vars), m') := by
  obtain ⟨m', hvars, hm'⟩ := Formula.variablesIn_of_valid hm
  refine ⟨m', hm', ?_⟩
  by_cases h0 : t.vars = []
  · -- without variables the empty assignment binds them all
    have heval : t.layout.evaluate (fun _ => none) = .ok (some (t.value fun _ => false)) :=
      Formula.evaluate_of_bound fun x hx => by simp [h0] at hx
    simp [build, hvars, h0, heval, expectValue]
  · by_cases hw : maxVariables < t.vars.length
    · simp [build, hvars, h0, hw]
    · -- every row is evaluated under an assignment that binds all the variables
      have hrow : ∀ i, t.layout.evaluate (fun v => (t.vars.zip (bitsOf t.vars.length i)).lookup v) =
          .ok (some (t.value (assign t.vars (bitsOf t.vars.length i)))) :=
        fun i => evaluate_row t _ (length_bitsOf _ i)
      simp only [build, Traced.exceptBind_value, hvars, List.length_eq_zero_iff, h0, if_false, hw]
      rw [mapM_value (g := fun i => ⟨bitsOf t.vars.length i, t.value (assign t.vars (bitsOf t.vars.length i))⟩)
        _ fun i _ => by simp [hrow, expectValue]]
      simp [tabulate]

end TruthTable

namespace Formula

/-! ### Dependence read off rows -/

open TruthTable

variable {t : Formula}

theorem value_update_split {cs₁ cs₂ : VarSet} {v : Var} (hcols : t.vars = cs₁ ++ v :: cs₂)
    (ρ : Var → Bool) (b : Bool) :
    t.value (Function.update ρ v b) =
      t.value (assign t.vars (cs₁.map ρ ++ b :: cs₂.map ρ)) := by
  have hnd : (cs₁ ++ v :: cs₂).Nodup := hcols ▸ t.vars_nodup
  rw [value_eq_assign t.vars_nodup (fun _ h => h) (Function.update ρ v b), hcols,
    map_update_split hnd]

/-- Two rows that differ in the column of `v` alone and give different values show that the
formula depends on `v`. -/
theorem dependsOn_of_split {cs₁ cs₂ : VarSet} {v : Var} (hcols : t.vars = cs₁ ++ v :: cs₂)
    {y₁ y₂ : List Bool} (h₁ : y₁.length = cs₁.length) (h₂ : y₂.length = cs₂.length) (b : Bool)
    (h : t.value (assign t.vars (y₁ ++ b :: y₂)) ≠
      t.value (assign t.vars (y₁ ++ (!b) :: y₂))) :
    t.DependsOn v := by
  have hnd : (cs₁ ++ v :: cs₂).Nodup := hcols ▸ t.vars_nodup
  obtain ⟨e₁, e₂⟩ := map_assign_split hnd h₁ h₂ (b := b)
  have hrow : ∀ c, t.value (Function.update (assign t.vars (y₁ ++ b :: y₂)) v c) =
      t.value (assign t.vars (y₁ ++ c :: y₂)) := by
    intro c
    rw [value_update_split hcols, hcols, e₁, e₂]
  refine ⟨assign t.vars (y₁ ++ b :: y₂), ?_⟩
  rw [hrow, hrow]
  cases b
  · exact h
  · exact Ne.symm h

theorem dependsOn_iff_split {cs₁ cs₂ : VarSet} {v : Var} (hcols : t.vars = cs₁ ++ v :: cs₂) :
    t.DependsOn v ↔ ∃ y₁ y₂, y₁.length = cs₁.length ∧ y₂.length = cs₂.length ∧
      t.value (assign t.vars (y₁ ++ false :: y₂)) ≠ t.value (assign t.vars (y₁ ++ true :: y₂)) := by
  constructor
  · rintro ⟨ρ, hρ⟩
    rw [value_update_split hcols, value_update_split hcols] at hρ
    exact ⟨cs₁.map ρ, cs₂.map ρ, List.length_map ρ, List.length_map ρ, hρ⟩
  · rintro ⟨y₁, y₂, h₁, h₂, h⟩
    exact dependsOn_of_split hcols h₁ h₂ false h

/-- What a fresh table request answers for a formula: its table over its own variables, or the
constant function of a formula without variables. -/
def tableResult (t : Formula) : Except ConstantFunction TruthTable :=
  if t.vars = [] then .error ⟨t.value fun _ => false⟩ else .ok (TruthTable.tabulate t t.vars)

theorem tableResult_error_iff {t : Formula} : (∃ e, t.tableResult = .error e) ↔ t.vars = [] := by
  by_cases h : t.vars = [] <;> simp [tableResult, h]

end Formula

namespace Calculator

/-- A calculator is coherent when its cached table, if any, is the table of its formula and its
memo is valid for its formula. -/
structure Coherent (c : Calculator) : Prop where
  cache : ∀ T, c.cache = some T → c.formula.tableResult = .ok T
  memo : c.memo.Valid c.formula

theorem coherent_of_cache_eq_none {c : Calculator} (h : c.cache = none) (hm : c.memo.Valid c.formula) :
    c.Coherent where
  cache T hT := by
    rw [h] at hT
    cases hT
  memo := hm

theorem coherent_of_fresh {c : Calculator} (h : c.cache = none) (hm : c.memo = {}) : c.Coherent :=
  coherent_of_cache_eq_none h (hm ▸ Memo.valid_empty c.formula)

variable {c : Calculator}

theorem freshTable_outcome (hm : c.memo.Valid c.formula) (h : c.formula.vars.length ≤ maxVariables) :
    ∃ m, m.Valid c.formula ∧ freshTable.outcome c = .ok (c.formula.tableResult, { c with memo := m }) := by
  obtain ⟨m, hm', hbuild⟩ := TruthTable.build_value hm
  refine ⟨m, hm', ?_⟩
  have hn : ¬ maxVariables < c.formula.vars.length := by omega
  by_cases h0 : c.formula.vars = []
  · simp [freshTable, hbuild, Formula.tableResult, h0]
  · simp [freshTable, hbuild, Formula.tableResult, h0, hn]

theorem table_outcome (hc : c.Coherent) (h : c.formula.vars.length ≤ maxVariables) :
    ∃ c', table.outcome c = .ok (c.formula.tableResult, c') ∧ c'.formula = c.formula ∧ c'.Coherent := by
  obtain ⟨m, hm, hfresh⟩ := freshTable_outcome hc.memo h
  by_cases hmem : c.memoize = true
  · cases hcache : c.cache with
    | some T =>
      refine ⟨c, ?_, rfl, hc⟩
      simp [table, hmem, hcache, note, hc.cache T hcache]
    | none =>
      cases hres : c.formula.tableResult with
      | error e =>
        refine ⟨{ c with memo := m }, ?_, rfl, coherent_of_cache_eq_none hcache hm⟩
        simp [table, hmem, hcache, hfresh, hres]
      | ok T =>
        refine ⟨{ c with memo := m, cache := some T }, ?_, rfl, ⟨?_, hm⟩⟩
        · simp [table, hmem, hcache, hfresh, hres]
        · rintro T' ⟨⟩
          exact hres
  · refine ⟨{ c with memo := m }, ?_, rfl, ⟨hc.cache, hm⟩⟩
    simp [table, hmem, hfresh]

/-- A request for a non-constant table answers as the table of a fresh build would, with a
table that gives one value reported as that constant. -/
theorem nonConstantTable_outcome (hc : c.Coherent) (h : c.formula.vars.length ≤ maxVariables) :
    ∃ c', nonConstantTable.outcome c =
        .ok ((match c.formula.tableResult with
          | .error e => .error e
          | .ok T => match T.constantValue? with
            | some v => .error ⟨v⟩
            | none => .ok T), c') ∧
      c'.formula = c.formula ∧ c'.Coherent := by
  obtain ⟨c', htable, hf, hc'⟩ := table_outcome hc h
  refine ⟨c', ?_, hf, hc'⟩
  simp only [nonConstantTable, Session.outcome_bind, htable]
  rcases c.formula.tableResult with e | T
  · rfl
  · simp only
    rcases T.constantValue? with _ | v <;> rfl

theorem nonConstantTable_of_isConstant (hc : c.Coherent) (h : c.formula.vars.length ≤ maxVariables)
    (hk : c.formula.IsConstant) :
    ∃ c', nonConstantTable.outcome c = .ok (.error ⟨c.formula.value fun _ => false⟩, c') ∧
      c'.formula = c.formula ∧ c'.Coherent := by
  obtain ⟨c', hout, hf, hc'⟩ := nonConstantTable_outcome hc h
  refine ⟨c', ?_, hf, hc'⟩
  rw [hout]
  by_cases h0 : c.formula.vars = []
  · simp [Formula.tableResult, h0]
  · simp [Formula.tableResult, h0, TruthTable.constantValue?_of_isConstant hk]

theorem nonConstantTable_of_not_isConstant (hc : c.Coherent)
    (h : c.formula.vars.length ≤ maxVariables) (hk : ¬ c.formula.IsConstant) :
    ∃ c', nonConstantTable.outcome c = .ok (.ok (TruthTable.tabulate c.formula c.formula.vars), c') ∧
      c'.formula = c.formula ∧ c'.Coherent := by
  obtain ⟨c', hout, hf, hc'⟩ := nonConstantTable_outcome hc h
  refine ⟨c', ?_, hf, hc'⟩
  have h0 := Formula.vars_ne_nil_of_not_isConstant hk
  have hnone : (TruthTable.tabulate c.formula c.formula.vars).constantValue? = none := by
    cases hv : (TruthTable.tabulate c.formula c.formula.vars).constantValue? with
    | none => rfl
    | some b =>
      exact absurd (TruthTable.isConstant_of_constantValue? c.formula.vars_nodup
        (fun _ hv => hv) hv) hk
  rw [hout]
  simp [Formula.tableResult, h0, hnone]

end Calculator

end PropCalc
