import Mathlib
import PropCalc.Formula.Basic

namespace PropCalc

namespace Var

theorem ext_name {a b : Var} (h : a.name = b.name) : a = b := by
  cases a
  cases b
  subst h
  rfl

theorem eq_of_toNat_eq {a b : Var} (h : a.name.toNat = b.name.toNat) : a = b :=
  ext_name (Char.ext (UInt32.toNat_inj.mp h))

theorem lt_iff {a b : Var} : Var.lt a b = true ↔ a.name.toNat < b.name.toNat := by
  simp only [Var.lt, decide_eq_true_eq, UInt32.lt_iff_toNat_lt]
  rfl

end Var

namespace VarSet

/-- A set kept strictly increasing by letter code. -/
def Increasing (s : VarSet) : Prop := s.Pairwise fun a b => a.name.toNat < b.name.toNat

theorem mem_insert {v w : Var} {s : VarSet} : w ∈ VarSet.insert v s ↔ w = v ∨ w ∈ s := by
  induction s with
  | nil => simp [VarSet.insert]
  | cons x s ih =>
    unfold VarSet.insert
    split_ifs with hlt heq
    · simp
    · subst heq
      simp
    · simp only [List.mem_cons, ih]
      tauto

theorem mem_union {v : Var} {s t : VarSet} : v ∈ union s t ↔ v ∈ s ∨ v ∈ t := by
  induction t generalizing s with
  | nil => simp [union]
  | cons x t ih =>
    show v ∈ union (VarSet.insert x s) t ↔ _
    rw [ih, mem_insert]
    simp only [List.mem_cons]
    tauto

theorem increasing_insert {v : Var} {s : VarSet} (hs : Increasing s) :
    Increasing (VarSet.insert v s) := by
  induction s with
  | nil => simp [Increasing, VarSet.insert]
  | cons w s ih =>
    have hw := List.pairwise_cons.mp hs
    unfold VarSet.insert
    split_ifs with hlt heq
    · have hvw := Var.lt_iff.mp hlt
      refine List.Pairwise.cons (fun x hx => ?_) hs
      rcases List.mem_cons.mp hx with rfl | hx
      · exact hvw
      · exact lt_trans hvw (hw.1 x hx)
    · exact hs
    · have hwv : w.name.toNat < v.name.toNat := by
        have hne : v.name.toNat ≠ w.name.toNat := fun h => heq (Var.eq_of_toNat_eq h)
        have hle : ¬ v.name.toNat < w.name.toNat := fun h => hlt (Var.lt_iff.mpr h)
        omega
      refine List.Pairwise.cons (fun x hx => ?_) (ih hw.2)
      rcases mem_insert.mp hx with rfl | hx
      · exact hwv
      · exact hw.1 x hx

theorem increasing_union {s t : VarSet} (hs : Increasing s) : Increasing (union s t) := by
  induction t generalizing s with
  | nil => exact hs
  | cons x t ih => exact ih (increasing_insert hs)

theorem Increasing.nodup {s : VarSet} (hs : Increasing s) : s.Nodup :=
  hs.imp fun h e => (ne_of_lt h) (congrArg (fun v : Var => v.name.toNat) e)

theorem Increasing.eq_of_mem_iff {s s' : VarSet} (hs : Increasing s) (hs' : Increasing s')
    (h : ∀ v, v ∈ s ↔ v ∈ s') : s = s' :=
  List.Perm.eq_of_pairwise (fun _ _ _ _ hab hba => absurd (hab.trans hba) (lt_irrefl _)) hs hs'
    ((List.perm_ext_iff_of_nodup hs.nodup hs'.nodup).mpr h)

end VarSet

namespace Formula

@[simp] theorem not_mem_vars_const {v : Var} {b : Bool} : v ∉ (const b).vars := by
  simp [vars]

@[simp] theorem mem_vars_var {v w : Var} : w ∈ (var v).vars ↔ w = v := by
  simp [vars]

@[simp] theorem mem_vars_neg {v : Var} {a : Formula} : v ∈ (neg a).vars ↔ v ∈ a.vars := Iff.rfl

@[simp] theorem mem_vars_bin {v : Var} {op : Connective} {a b : Formula} :
    v ∈ (bin op a b).vars ↔ v ∈ a.vars ∨ v ∈ b.vars :=
  VarSet.mem_union

theorem vars_increasing (t : Formula) : VarSet.Increasing t.vars := by
  induction t with
  | const => exact List.Pairwise.nil
  | var => exact List.pairwise_singleton _ _
  | neg a ih => exact ih
  | bin op a b iha => exact VarSet.increasing_union iha

theorem vars_nodup (t : Formula) : t.vars.Nodup := (vars_increasing t).nodup

/-- The value of a formula reads only the values of its own variables. -/
theorem value_congr {ρ σ : Var → Bool} :
    ∀ {t : Formula}, (∀ v ∈ t.vars, ρ v = σ v) → t.value ρ = t.value σ
  | const _, _ => rfl
  | var v, h => h v (by simp)
  | neg a, h => by
    simp only [value, value_congr (t := a) h]
  | bin op a b, h => by
    simp only [value]
    rw [value_congr (t := a) fun v hv => h v (by simp [hv]),
      value_congr (t := b) fun v hv => h v (by simp [hv])]

/-- The formula depends on `v`: setting `v` alone to `false` or to `true` gives two values
somewhere. -/
def DependsOn (t : Formula) (v : Var) : Prop :=
  ∃ ρ : Var → Bool, t.value (Function.update ρ v false) ≠ t.value (Function.update ρ v true)

theorem value_update_of_not_mem {t : Formula} {v : Var} (hv : v ∉ t.vars) (ρ : Var → Bool)
    (b : Bool) : t.value (Function.update ρ v b) = t.value ρ :=
  value_congr fun w hw => Function.update_of_ne (fun e => hv (by rwa [← e])) b ρ

theorem mem_vars_of_dependsOn {t : Formula} {v : Var} (h : t.DependsOn v) : v ∈ t.vars := by
  by_contra hv
  obtain ⟨ρ, hρ⟩ := h
  rw [value_update_of_not_mem hv, value_update_of_not_mem hv] at hρ
  exact hρ rfl

/-- The formula takes one value under every assignment. -/
def IsConstant (t : Formula) : Prop := ∀ ρ σ : Var → Bool, t.value ρ = t.value σ

theorem not_dependsOn_of_isConstant {t : Formula} (h : t.IsConstant) (v : Var) : ¬ t.DependsOn v :=
  fun ⟨_, hρ⟩ => hρ (h _ _)

theorem isConstant_of_value_eq {t : Formula} {b : Bool} (h : ∀ ρ, t.value ρ = b) : t.IsConstant :=
  fun ρ σ => by rw [h ρ, h σ]

/-- A formula that is not constant takes each value somewhere. -/
theorem exists_value_eq_of_not_isConstant {t : Formula} (hk : ¬ t.IsConstant) (b : Bool) :
    ∃ ρ, t.value ρ = b := by
  by_contra hno
  push Not at hno
  exact hk (isConstant_of_value_eq fun ρ => Bool.eq_not_of_ne (hno ρ))

/-! ### Chains of one connective -/

theorem value_foldl_bin (op : Connective) (ρ : Var → Bool) (xs : List Formula) (x : Formula) :
    (xs.foldl (bin op) x).value ρ = xs.foldl (fun acc y => op.apply acc (y.value ρ)) (x.value ρ) := by
  induction xs generalizing x with
  | nil => rfl
  | cons y xs ih => exact ih (bin op x y)

theorem mem_vars_foldl_bin (op : Connective) (xs : List Formula) (x : Formula) (v : Var) :
    v ∈ (xs.foldl (bin op) x).vars ↔ v ∈ x.vars ∨ ∃ y ∈ xs, v ∈ y.vars := by
  induction xs generalizing x with
  | nil => simp
  | cons y xs ih =>
    rw [List.foldl_cons, ih, mem_vars_bin]
    simp [or_assoc]

theorem exists_chain_eq_some (op : Connective) {xs : List Formula} (h : xs ≠ []) :
    ∃ f, chain op xs = some f := by
  obtain ⟨x, xs, rfl⟩ := List.exists_cons_of_ne_nil h
  exact ⟨_, rfl⟩

theorem mem_vars_of_chain {op : Connective} {xs : List Formula} {f : Formula}
    (h : chain op xs = some f) (v : Var) : v ∈ f.vars ↔ ∃ x ∈ xs, v ∈ x.vars := by
  cases xs with
  | nil => cases h
  | cons x xs =>
    cases h
    rw [mem_vars_foldl_bin]
    simp

theorem mem_vars_getD_chain (op : Connective) (xs : List Formula) (b : Bool) (v : Var) :
    v ∈ ((chain op xs).getD (const b)).vars ↔ ∃ x ∈ xs, v ∈ x.vars := by
  cases xs with
  | nil => simp [chain]
  | cons x xs =>
    rw [chain, Option.getD_some, mem_vars_foldl_bin]
    simp

/-- A conjunction chain, or `1` for no members, is true when every member is. -/
theorem value_getD_chain_and (xs : List Formula) (ρ : Var → Bool) :
    ((chain .and xs).getD (const true)).value ρ = xs.all (·.value ρ) := by
  cases xs with
  | nil => rfl
  | cons x xs =>
    simp only [chain, Option.getD_some, value_foldl_bin, List.all_cons]
    generalize x.value ρ = b
    induction xs generalizing b with
    | nil => simp
    | cons y xs ih =>
      rw [List.foldl_cons, ih, List.all_cons]
      simp [Connective.apply, Bool.and_assoc]

theorem value_chain_and {xs : List Formula} {f : Formula} (h : chain .and xs = some f)
    (ρ : Var → Bool) : f.value ρ = xs.all (·.value ρ) := by
  have hv := value_getD_chain_and xs ρ
  rwa [h, Option.getD_some] at hv

theorem value_chain_or {xs : List Formula} {f : Formula} (h : chain .or xs = some f)
    (ρ : Var → Bool) : f.value ρ = xs.any (·.value ρ) := by
  cases xs with
  | nil => cases h
  | cons x xs =>
    cases h
    rw [value_foldl_bin, List.any_cons]
    generalize x.value ρ = b
    induction xs generalizing b with
    | nil => simp
    | cons y xs ih =>
      rw [List.foldl_cons, ih, List.any_cons]
      simp [Connective.apply, Bool.or_assoc]

end Formula

end PropCalc
