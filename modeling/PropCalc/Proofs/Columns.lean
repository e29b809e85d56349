import Mathlib
import PropCalc.Proofs.Polynomial
import PropCalc.Proofs.PrimeImplicants

namespace PropCalc

namespace TruthTable

/-! ### Tables over columns -/

theorem tabulate_congr {s t : Formula} (h : ∀ ρ, s.value ρ = t.value ρ) (vs : VarSet) :
    tabulate s vs = tabulate t vs := by
  simp [tabulate, h]

theorem assign_of_not_mem {vs : VarSet} {w : Var} (hw : w ∉ vs) (x : List Bool) :
    assign vs x w = false := by
  induction vs generalizing x with
  | nil => rfl
  | cons v vs ih =>
    have hne : v ≠ w := fun e => hw (e ▸ List.mem_cons_self)
    cases x with
    | nil => rfl
    | cons b x =>
      rw [assign_cons, if_neg hne]
      exact ih (fun h => hw (List.mem_cons_of_mem v h)) x

theorem assign_split {cs₁ cs₂ : VarSet} {w : Var} (hw : w ∉ cs₁) {y₁ y₂ : List Bool}
    (h₁ : y₁.length = cs₁.length) (b : Bool) :
    assign (cs₁ ++ w :: cs₂) (y₁ ++ b :: y₂) = Function.update (assign (cs₁ ++ cs₂) (y₁ ++ y₂)) w b := by
  funext v
  induction cs₁ generalizing y₁ with
  | nil =>
    rw [List.length_eq_zero_iff.mp h₁]
    by_cases hv : v = w
    · subst hv
      simp [assign_cons]
    · simp [assign_cons, Ne.symm hv, hv]
  | cons u cs₁ ih =>
    obtain ⟨c, y₁, rfl⟩ := List.exists_cons_of_length_eq_add_one h₁
    have hu : u ≠ w := fun e => hw (e ▸ List.mem_cons_self)
    have ih' : assign (cs₁ ++ w :: cs₂) (y₁ ++ b :: y₂) v =
        Function.update (assign (cs₁ ++ cs₂) (y₁ ++ y₂)) w b v :=
      ih (fun h => hw (List.mem_cons_of_mem u h)) (by simpa using h₁)
    simp only [List.cons_append, assign_cons]
    by_cases hvw : v = w
    · subst hvw
      simp only [Function.update_self] at ih' ⊢
      rw [if_neg hu, ih']
    · rw [Function.update_of_ne hvw] at ih' ⊢
      rw [assign_cons, ih']

variable {t : Formula}

theorem value_assign_erase {cs₁ cs₂ : VarSet} {w : Var} (hvs : (cs₁ ++ w :: cs₂).Nodup)
    (hw : ¬ t.DependsOn w) {y₁ y₂ : List Bool} (h₁ : y₁.length = cs₁.length) (b : Bool) :
    t.value (assign (cs₁ ++ w :: cs₂) (y₁ ++ b :: y₂)) = t.value (assign (cs₁ ++ cs₂) (y₁ ++ y₂)) := by
  have hnot : w ∉ cs₁ ++ cs₂ := (List.nodup_middle.mp hvs |> List.nodup_cons.mp).1
  have hoff : assign (cs₁ ++ cs₂) (y₁ ++ y₂) w = false := assign_of_not_mem hnot _
  rw [assign_split (fun h => hnot (List.mem_append_left cs₂ h)) h₁]
  -- setting `w` to `false` changes nothing, and setting it to `true` gives the same value
  have hfalse : Function.update (assign (cs₁ ++ cs₂) (y₁ ++ y₂)) w false =
      assign (cs₁ ++ cs₂) (y₁ ++ y₂) := by
    rw [← hoff, Function.update_eq_self]
  cases b
  · rw [hfalse]
  · by_contra hne
    exact hw ⟨_, by rwa [hfalse, ne_comm]⟩

end TruthTable

namespace Formula

/-- A quantity read off a table's columns that leaving out a column the formula does not depend
on never changes takes one value on every sublist of duplicate-free columns that keeps every
column the formula depends on. -/
theorem eq_of_sublist_of_erase {β : Type} {t : Formula} (F : VarSet → β)
    (hstep : ∀ cs₁ w cs₂, (cs₁ ++ w :: cs₂).Nodup → ¬ t.DependsOn w →
      F (cs₁ ++ cs₂) = F (cs₁ ++ w :: cs₂))
    {vs ws : VarSet} (hws : ws.Nodup) (hsub : vs.Sublist ws)
    (hdep : ∀ v ∈ ws, v ∉ vs → ¬ t.DependsOn v) : F vs = F ws := by
  -- induction on the sublist, with the columns already passed kept as a prefix
  suffices h : ∀ pre : VarSet, (pre ++ ws).Nodup → F (pre ++ vs) = F (pre ++ ws) from h [] hws
  clear hws
  induction hsub with
  | slnil => intro pre _; rfl
  | @cons vs ws w hsub ih =>
    intro pre hnd
    have hw : w ∉ vs := fun h => (List.nodup_cons.mp (List.nodup_middle.mp hnd)).1
      (List.mem_append_right pre (hsub.subset h))
    rw [ih (fun v hv hvs => hdep v (List.mem_cons_of_mem w hv) hvs) pre
        (List.nodup_middle.mp hnd |> List.Nodup.of_cons),
      hstep pre w ws hnd (hdep w List.mem_cons_self hw)]
  | @cons_cons vs ws w hsub ih =>
    intro pre hnd
    have hw : w ∉ ws := fun h => (List.nodup_cons.mp (List.nodup_middle.mp hnd)).1
      (List.mem_append_right pre h)
    have h := ih (fun v hv hvs => hdep v (List.mem_cons_of_mem w hv)
      fun h => (List.mem_cons.mp h).elim (fun e => hw (e ▸ hv)) hvs) (pre ++ [w]) (by simpa using hnd)
    simpa using h

end Formula

namespace Zhegalkin

open TruthTable

/-! ### Monomials over the rows of a cube -/

/-- All lists of `m` values, in the order of a table's rows. -/
def cube (m : Nat) : List (List Bool) := (List.range (2 ^ m)).map (bitsOf m)

theorem length_of_mem_cube {m : Nat} {x : List Bool} (hx : x ∈ cube m) : x.length = m := by
  obtain ⟨i, -, rfl⟩ := List.mem_map.mp hx
  exact length_bitsOf m i

theorem cube_succ (m : Nat) :
    cube (m + 1) = (cube m).map (false :: ·) ++ (cube m).map (true :: ·) := by
  simp only [cube, Nat.pow_succ, Nat.mul_two, List.range_add, List.map_append, List.map_map]
  congr 1
  · refine List.map_congr_left fun i hi => ?_
    simp only [Function.comp_apply]
    rw [bitsOf_succ, Nat.testBit_lt_two_pow (List.mem_range.mp hi)]
  · refine List.map_congr_left fun i hi => ?_
    have hlow : i.testBit m = false := Nat.testBit_lt_two_pow (List.mem_range.mp hi)
    simp only [Function.comp_apply]
    rw [bitsOf_succ, Nat.testBit_two_pow_add_eq, hlow, bitsOf_two_pow_add]
    rfl

/-- The rows of the cube with `false` at position `k` are, in order, the rows of the cube one
smaller with `false` put in at `k`. -/
theorem filter_cube : ∀ {k m : Nat}, k ≤ m →
    (cube (m + 1)).filter (fun x => x[k]? == some false) =
      (cube m).map fun y => y.take k ++ false :: y.drop k
  | 0, m, _ => by
    rw [cube_succ, List.filter_append, List.filter_map, List.filter_map]
    simp [Function.comp_def]
  | k + 1, m + 1, hk => by
    have hpos : ∀ b : Bool, ((fun x => x[k + 1]? == some false) ∘ (b :: ·)) =
        fun x => x[k]? == some false := fun b => by
      funext x
      simp
    rw [cube_succ (m + 1), List.filter_append, List.filter_map, List.filter_map, hpos, hpos,
      filter_cube (by omega), cube_succ m]
    simp [Function.comp_def]

theorem mobius_insert_false : ∀ {k m : Nat} (g : List Bool → Bool) {y : List Bool},
    y.length = m → k ≤ m →
    mobius (m + 1) g (y.take k ++ false :: y.drop k) =
      mobius m (fun w => g (w.take k ++ false :: w.drop k)) y
  | 0, m, g, y, _, _ => by
    simp [mobius_false_cons]
  | k + 1, m + 1, g, b :: y, hy, hk => by
    have hy' : y.length = m := by simpa using hy
    simp only [List.take_succ_cons, List.drop_succ_cons, List.cons_append]
    cases b
    · rw [mobius_false_cons, mobius_false_cons,
        mobius_insert_false (fun x => g (false :: x)) hy' (by omega)]
      simp only [List.take_succ_cons, List.drop_succ_cons, List.cons_append]
    · rw [mobius_true_cons, mobius_true_cons,
        mobius_insert_false (fun x => g (false :: x)) hy' (by omega),
        mobius_insert_false (fun x => g (true :: x)) hy' (by omega)]
      simp only [List.take_succ_cons, List.drop_succ_cons, List.cons_append]
  | _ + 1, 0, _, _, _, hk => by omega
  | _ + 1, _ + 1, _, [], hy, _ => by simp at hy

/-- The variables of `vs` whose position is true in `x`. -/
def select (vs : List Var) (x : List Bool) : List Var := ((vs.zip x).filter (·.2)).map (·.1)

theorem select_split {cs₁ cs₂ : VarSet} {w : Var} {y₁ y₂ : List Bool}
    (h₁ : cs₁.length = y₁.length) :
    select (cs₁ ++ w :: cs₂) (y₁ ++ false :: y₂) = select (cs₁ ++ cs₂) (y₁ ++ y₂) := by
  simp [select, List.zip_append h₁]

theorem monomial_eq_select (vs : VarSet) (i : Nat) :
    monomial vs i = Formula.conjunction (select vs (bitsOf vs.length i)) := by
  rw [monomial_eq_conjunction, select, bitsOf, List.zip_map_right, List.filter_map, List.map_map,
    List.zipIdx_eq_zip_range', List.range_eq_range']
  rfl

/-- The polynomial of a table: the exclusive or, over the rows of the cube in order, of the
monomials whose coefficient is `1`. -/
theorem polynomial_tabulate (t : Formula) (vs : VarSet) :
    (tabulate t vs).polynomial = Formula.chain .xor
      (((cube vs.length).filter (mobius vs.length fun x => t.value (assign vs x))).map
        fun x => Formula.conjunction (select vs x)) := by
  rw [polynomial, coefficients_tabulate, columns_tabulate, zipIdx_column, cube, List.filter_map,
    List.filter_map, List.map_map, List.map_map]
  congr 1
  refine List.map_congr_left fun i _ => ?_
  exact monomial_eq_select vs i

/-- When `g` ignores position `k`, its monomials with coefficient `1` are, in order, those of `g`
with position `k` held at `false`, each with `false` put back in at `k`. -/
theorem filter_mobius_of_ignores {k m : Nat} {g : List Bool → Bool} (hk : k ≤ m)
    (hign : Ignores (m + 1) k g) :
    (cube (m + 1)).filter (mobius (m + 1) g) =
      ((cube m).filter (mobius m fun y => g (y.take k ++ false :: y.drop k))).map
        fun y => y.take k ++ false :: y.drop k := by
  -- no monomial with position `k` set has coefficient `1`
  have hzero : ∀ x ∈ cube (m + 1), mobius (m + 1) g x = true → x[k]? = some false := by
    intro x hx hc
    have hxlen := length_of_mem_cube hx
    cases hb : x[k]? with
    | none => simp at hb; omega
    | some b =>
      cases b
      · rfl
      · rw [mobius_eq_false_of_ignores _ _ _ hign x hxlen hb] at hc
        cases hc
  calc (cube (m + 1)).filter (mobius (m + 1) g)
      = ((cube (m + 1)).filter fun x => x[k]? == some false).filter (mobius (m + 1) g) := by
        rw [List.filter_filter]
        refine List.filter_congr fun x hx => ?_
        cases hc : mobius (m + 1) g x
        · simp
        · simp [hzero x hx hc]
    _ = ((cube m).map fun y => y.take k ++ false :: y.drop k).filter (mobius (m + 1) g) := by
        rw [filter_cube hk]
    _ = _ := by
        rw [List.filter_map]
        congr 1
        refine List.filter_congr fun y hy => ?_
        rw [Function.comp_apply, mobius_insert_false _ (length_of_mem_cube hy) hk]

theorem polynomial_tabulate_erase {t : Formula} {cs₁ cs₂ : VarSet} {w : Var}
    (hvs : (cs₁ ++ w :: cs₂).Nodup) (hw : ¬ t.DependsOn w) :
    (tabulate t (cs₁ ++ cs₂)).polynomial = (tabulate t (cs₁ ++ w :: cs₂)).polynomial := by
  rw [polynomial_tabulate, polynomial_tabulate]
  have hlen : (cs₁ ++ w :: cs₂).length = (cs₁ ++ cs₂).length + 1 := by simp; omega
  have hk : cs₁.length ≤ (cs₁ ++ cs₂).length := by simp
  have hign : Ignores ((cs₁ ++ cs₂).length + 1) cs₁.length
      (fun x => t.value (assign (cs₁ ++ w :: cs₂) x)) := fun y₁ y₂ h₁ h₂ => by
    dsimp only
    rw [value_assign_erase hvs hw (by omega), value_assign_erase hvs hw (by omega)]
  -- with `false` in the column, a row of the larger table reads the smaller table's row
  have hrow : ∀ y : List Bool, y.length = (cs₁ ++ cs₂).length →
      t.value (assign (cs₁ ++ w :: cs₂) (y.take cs₁.length ++ false :: y.drop cs₁.length)) =
        t.value (assign (cs₁ ++ cs₂) y) := by
    intro y hy
    rw [value_assign_erase hvs hw (by simp; omega), List.take_append_drop]
  rw [hlen, filter_mobius_of_ignores hk hign,
    List.filter_congr fun y _ => mobius_congr hrow y, List.map_map]
  congr 1
  refine List.map_congr_left fun y hy => ?_
  have hylen := length_of_mem_cube (List.mem_of_mem_filter hy)
  rw [Function.comp_apply, select_split (by simp; omega), List.take_append_drop]

theorem polynomial_tabulate_sublist {t : Formula} {vs ws : VarSet} (hws : ws.Nodup)
    (hsub : vs.Sublist ws) (hdep : ∀ v ∈ ws, v ∉ vs → ¬ t.DependsOn v) :
    (tabulate t vs).polynomial = (tabulate t ws).polynomial :=
  Formula.eq_of_sublist_of_erase (fun vs => (tabulate t vs).polynomial)
    (fun _ _ _ hnd hw => polynomial_tabulate_erase hnd hw) hws hsub hdep

end Zhegalkin

namespace Implicant

/-! ### The order of implicants -/

theorem cmp_eq_compareLex (a b : Implicant) :
    cmp a b = List.compareLex (compareOn Bit.rank) a b := by
  induction a generalizing b with
  | nil => cases b <;> rfl
  | cons x a ih =>
    cases b with
    | nil => rfl
    | cons y b =>
      simp only [Implicant.cmp, List.compareLex_cons_cons, compareOn, ih]
      split_ifs with h₁ h₂
      · rw [Nat.compare_eq_lt.mpr h₁]
        rfl
      · rw [Nat.compare_eq_gt.mpr h₂]
        rfl
      · rw [Nat.compare_eq_eq.mpr (by omega)]
        rfl

instance : Std.TransCmp cmp := by
  have h : cmp = List.compareLex (compareOn Bit.rank) := funext fun a => funext (cmp_eq_compareLex a)
  rw [h]
  infer_instance

def Lt (a b : Implicant) : Prop := cmp a b = .lt

theorem Lt.trans {a b c : Implicant} (hab : Lt a b) (hbc : Lt b c) : Lt a c :=
  Std.TransCmp.lt_trans hab hbc

theorem Lt.ne {a b : Implicant} (h : Lt a b) : a ≠ b := by
  rintro rfl
  rw [Lt, cmp_eq_eq_iff.mpr rfl] at h
  cases h

theorem eq_of_sorted_of_mem_iff {l₁ l₂ : List Implicant} (h₁ : l₁.Pairwise Lt) (h₂ : l₂.Pairwise Lt)
    (h : ∀ a, a ∈ l₁ ↔ a ∈ l₂) : l₁ = l₂ :=
  List.Perm.eq_of_pairwise (fun _ _ _ _ hab hba => (Lt.ne (hab.trans hba) rfl).elim) h₁ h₂ ((List.perm_ext_iff_of_nodup (h₁.imp Lt.ne) (h₂.imp Lt.ne)).mpr h)

theorem cmp_split {p q p' q' : Implicant} (hp : p.length = p'.length) (x : Bit) :
    cmp (p ++ x :: q) (p' ++ x :: q') = cmp (p ++ q) (p' ++ q') := by
  induction p generalizing p' with
  | nil =>
    obtain rfl := List.length_eq_zero_iff.mp hp.symm
    simp [Implicant.cmp]
  | cons y p ih =>
    obtain ⟨y', p', rfl⟩ := List.exists_cons_of_length_eq_add_one hp.symm
    simp only [List.cons_append, Implicant.cmp]
    rw [ih (by simpa using hp)]

theorem mergeSort_sorted (l : List Implicant) :
    (l.mergeSort fun a b => cmp a b != .gt).Pairwise fun a b => (cmp a b != .gt) = true :=
  List.pairwise_mergeSort
    (fun a b c hab hbc => by
      simp only [bne_iff_ne, ne_eq] at hab hbc ⊢
      exact Std.TransCmp.le_trans hab hbc)
    (fun a b => by
      have hswap : cmp b a = (cmp a b).swap := Std.OrientedCmp.eq_swap
      cases h : cmp a b
      · simp
      · simp
      · simp [hswap, h]) l

theorem foldr_dedup_sorted {m : List Implicant}
    (hm : m.Pairwise fun a b => (cmp a b != .gt) = true) :
    (m.foldr (fun a acc => match acc with
        | b :: _ => if cmp a b == .eq then acc else a :: acc
        | [] => [a]) []).Pairwise Lt ∧
      ∀ b ∈ m.foldr (fun a acc => match acc with
        | b :: _ => if cmp a b == .eq then acc else a :: acc
        | [] => [a]) [], b ∈ m := by
  induction m with
  | nil => simp
  | cons x m ih =>
    obtain ⟨hx, hm⟩ := List.pairwise_cons.mp hm
    obtain ⟨hsorted, hmem⟩ := ih hm
    rw [List.foldr_cons]
    generalize m.foldr _ [] = acc at hsorted hmem
    rcases acc with _ | ⟨b, rest⟩
    · simp
    · simp only
      split_ifs with hxb
      · exact ⟨hsorted, fun c hc => List.mem_cons_of_mem x (hmem c hc)⟩
      · -- `x` is below every kept member and differs from the first
        have hxb' : Lt x b := by
          have hle' : cmp x b ≠ .gt := by simpa using hx b (hmem b List.mem_cons_self)
          simp only [beq_iff_eq] at hxb
          unfold Lt
          cases h : cmp x b <;> simp_all
        refine ⟨List.Pairwise.cons (fun c hc => ?_) hsorted, fun c hc => ?_⟩
        · rcases List.mem_cons.mp hc with rfl | hc
          · exact hxb'
          · exact hxb'.trans (List.rel_of_pairwise_cons hsorted hc)
        · rcases List.mem_cons.mp hc with rfl | hc
          · exact List.mem_cons_self
          · exact List.mem_cons_of_mem x (hmem c hc)

theorem sortSet_sorted (l : List Implicant) : (sortSet l).Pairwise Lt :=
  (foldr_dedup_sorted (mergeSort_sorted l)).1

end Implicant

namespace QuineMcCluskey

open Implicant

theorem rounds_sorted (width : Nat) :
    ∀ (fuel r : Nat) (current primes : List Implicant), primes.Pairwise Lt →
      (rounds width fuel r current primes).value.Pairwise Lt := by
  intro fuel
  induction fuel with
  | zero => intro r current primes h; exact h
  | succ fuel ih =>
    intro r current primes h
    by_cases hempty : current.isEmpty = true
    · simpa [rounds, hempty] using h
    · rcases hround : round current width with ⟨glued, survivors⟩
      simp only [rounds, hempty, Bool.false_eq_true, if_false, hround, Traced.bind_value]
      exact ih (r + 1) glued _ (sortSet_sorted _)

theorem primeImplicants_sorted (M : List (List Bool)) : (primeImplicants M).value.Pairwise Lt :=
  rounds_sorted _ _ _ _ [] List.Pairwise.nil

end QuineMcCluskey

namespace Implicant

/-! ### Prime implicants without a column the function ignores -/

theorem toTerm_split {p q : Implicant} {cs₁ cs₂ : VarSet} {w : Var} (h : cs₁.length = p.length) :
    toTerm (p ++ .dontCare :: q) (cs₁ ++ w :: cs₂) = toTerm (p ++ q) (cs₁ ++ cs₂) := by
  simp [toTerm, List.zip_append h]

theorem exists_admits (x : Bit) : ∃ v, x.admits v = true :=
  ⟨x == .one, by cases x <;> rfl⟩

theorem eq_dontCare_of_admits {x : Bit} (h₀ : x.admits false = true) (h₁ : x.admits true = true) :
    x = .dontCare := by
  cases x <;> simp_all [Bit.admits]

theorem covers_split_of_covers {p q : Implicant} {x : Bit} {y₁ y₂ : List Bool} {v : Bool}
    (h₁ : y₁.length = p.length) (hp : p.covers y₁ = true) (hx : x.admits v = true)
    (hq : q.covers y₂ = true) : (p ++ x :: q).covers (y₁ ++ v :: y₂) = true := by
  rw [covers_split h₁, hp, hx, hq]
  rfl

theorem covers_split_iff {p q : Implicant} {x : Bit} {y : List Bool} :
    (p ++ x :: q).covers y = true ↔ ∃ y₁ v y₂, y = y₁ ++ v :: y₂ ∧ y₁.length = p.length ∧
      p.covers y₁ = true ∧ x.admits v = true ∧ q.covers y₂ = true := by
  constructor
  · intro h
    obtain ⟨y₁, v, y₂, rfl, h₁⟩ := exists_split h
    rw [covers_split h₁, Bool.and_eq_true, Bool.and_eq_true] at h
    exact ⟨y₁, v, y₂, rfl, h₁, h.1.1, h.1.2, h.2⟩
  · rintro ⟨y₁, v, y₂, rfl, h₁, hp, hx, hq⟩
    exact covers_split_of_covers h₁ hp hx hq

theorem eq_dontCare_of_covers {p q : Implicant} {x : Bit}
    (hcov : ∀ y, (p ++ .dontCare :: q).covers y = true → (p ++ x :: q).covers y = true) :
    x = .dontCare := by
  obtain ⟨y₁, hy₁⟩ := exists_covered p
  obtain ⟨y₂, hy₂⟩ := exists_covered q
  have hlen₁ := length_eq_of_covers hy₁
  have hadm : ∀ v, x.admits v = true := fun v => by
    have h := hcov _ (covers_split_of_covers (v := v) hlen₁.symm hy₁ rfl hy₂)
    rw [covers_split hlen₁.symm, Bool.and_eq_true, Bool.and_eq_true] at h
    exact h.1.2
  exact eq_dontCare_of_admits (hadm false) (hadm true)

theorem exists_split_length {α : Type} {k : Nat} {l : List α} (hl : k ≤ l.length) :
    ∃ l₁ l₂, l = l₁ ++ l₂ ∧ l₁.length = k :=
  ⟨l.take k, l.drop k, (List.take_append_drop k l).symm, by simp; omega⟩

section Column

variable {n k : Nat} {M M' : List (List Bool)}
  (hM : ∀ y₁ b y₂, y₁.length = k → (y₁ ++ b :: y₂ ∈ M ↔ y₁ ++ y₂ ∈ M'))
include hM

theorem isImplicant_split_iff {p q : Implicant} (hp : p.length = k) (x : Bit) :
    IsImplicant (n + 1) M (p ++ x :: q) ↔ IsImplicant n M' (p ++ q) := by
  simp only [IsImplicant, List.length_append, List.length_cons]
  constructor
  · rintro ⟨hlen, hcov⟩
    refine ⟨by omega, fun y hy => ?_⟩
    have hylen := length_eq_of_covers hy
    rw [← List.take_append_drop k y] at hy ⊢
    have h₁ : (y.take k).length = k := by simp [List.length_append] at hylen; simp; omega
    rw [covers_append (by omega), Bool.and_eq_true] at hy
    obtain ⟨v, hv⟩ := exists_admits x
    exact (hM _ v _ h₁).mp (hcov _ (covers_split_of_covers (by omega) hy.1 hv hy.2))
  · rintro ⟨hlen, hcov⟩
    refine ⟨by omega, fun y hy => ?_⟩
    obtain ⟨y₁, v, y₂, rfl, h₁, hp, -, hq⟩ := covers_split_iff.mp hy
    refine (hM y₁ v y₂ (by omega)).mpr (hcov _ ?_)
    rw [covers_append h₁.symm, hp, hq]
    rfl

theorem IsPrime.split_dontCare (hk : k ≤ n) {a : Implicant} (ha : IsPrime (n + 1) M a) :
    ∃ p q, a = p ++ .dontCare :: q ∧ p.length = k := by
  obtain ⟨p, x, q, rfl, hp⟩ := exists_split_at (show k < a.length by rw [ha.1.1]; omega)
  refine ⟨p, q, ?_, hp⟩
  -- freeing the column gives an implicant that covers at least as much, so it is `a` itself
  have hfree : IsImplicant (n + 1) M (p ++ .dontCare :: q) :=
    (isImplicant_split_iff hM hp _).mpr ((isImplicant_split_iff hM hp x).mp ha.1)
  refine (ha.2 _ hfree fun y hy => ?_).symm
  obtain ⟨y₁, v, y₂, rfl, h₁, hp, -, hq⟩ := covers_split_iff.mp hy
  exact covers_split_of_covers h₁ hp rfl hq

theorem isPrime_split_iff (hk : k ≤ n) {p q : Implicant} (hp : p.length = k) :
    IsPrime (n + 1) M (p ++ .dontCare :: q) ↔ IsPrime n M' (p ++ q) := by
  constructor
  · rintro ⟨ha, hmax⟩
    refine ⟨(isImplicant_split_iff hM hp _).mp ha, fun b hb hcov => ?_⟩
    obtain ⟨p', q', rfl, hp'⟩ := exists_split_length (show k ≤ b.length by rw [hb.1]; omega)
    -- `b` with the column freed is an implicant covering what `a` covers
    have hb' := (isImplicant_split_iff hM hp' .dontCare).mpr hb
    have heq := hmax _ hb' fun y hy => by
      obtain ⟨y₁, v, y₂, rfl, h₁, hp₁, -, hq₂⟩ := covers_split_iff.mp hy
      have hc := hcov (y₁ ++ y₂) (by rw [covers_append h₁.symm, hp₁, hq₂]; rfl)
      rw [covers_append (by omega), Bool.and_eq_true] at hc
      exact covers_split_of_covers (by omega) hc.1 rfl hc.2
    obtain ⟨rfl, htail⟩ := List.append_inj heq (by omega)
    rw [(List.cons.inj htail).2]
  · rintro ⟨hb, hmax⟩
    refine ⟨(isImplicant_split_iff hM hp _).mpr hb, fun c hc hcov => ?_⟩
    obtain ⟨p', x, q', rfl, hp'⟩ := exists_split_at (show k < c.length by rw [hc.1]; omega)
    -- `c` without the column is an implicant covering what `p ++ q` covers
    have heq := hmax _ ((isImplicant_split_iff hM hp' x).mp hc) fun y hy => by
      have hylen := length_eq_of_covers hy
      obtain ⟨y₁, y₂, rfl, h₁⟩ := exists_split_length (show k ≤ y.length by
        simp at hylen; omega)
      rw [covers_append (by omega), Bool.and_eq_true] at hy
      have hc' := hcov _ (covers_split_of_covers (v := false) (by omega) hy.1 rfl hy.2)
      rw [covers_split (by omega), Bool.and_eq_true, Bool.and_eq_true] at hc'
      rw [covers_append (by omega), hc'.1.1, hc'.2]
      rfl
    obtain ⟨rfl, rfl⟩ := List.append_inj heq (by omega)
    rw [eq_dontCare_of_covers hcov]

end Column

end Implicant

namespace QuineMcCluskey

open Implicant

/-- When the rows ignore column `k`, the method's primes are those of the rows without the
column, each with the column put back free, in the same order. -/
theorem primeImplicants_split {n k : Nat} {M M' : List (List Bool)}
    (hM : ∀ y₁ b y₂, y₁.length = k → (y₁ ++ b :: y₂ ∈ M ↔ y₁ ++ y₂ ∈ M')) (hk : k ≤ n)
    (hMlen : ∀ y ∈ M, y.length = n + 1) (hM'len : ∀ y ∈ M', y.length = n) :
    (primeImplicants M).value =
      (primeImplicants M').value.map fun b => b.take k ++ .dontCare :: b.drop k := by
  have hlen : ∀ b ∈ (primeImplicants M').value, k ≤ b.length := fun b hb => by
    rw [((mem_primeImplicants hM'len b).mp hb).1.1]
    exact hk
  refine eq_of_sorted_of_mem_iff (primeImplicants_sorted M) ?_ fun a => ?_
  · -- putting the column back keeps the order
    refine List.pairwise_map.mpr ((primeImplicants_sorted M').imp_of_mem fun ha hb hab => ?_)
    unfold Lt at hab ⊢
    rw [cmp_split (by simp; have := hlen _ ha; have := hlen _ hb; omega), List.take_append_drop,
      List.take_append_drop]
    exact hab
  · rw [mem_primeImplicants hMlen, List.mem_map]
    constructor
    · intro ha
      obtain ⟨p, q, rfl, hp⟩ := ha.split_dontCare hM hk
      refine ⟨p ++ q, (mem_primeImplicants hM'len _).mpr ((isPrime_split_iff hM hk hp).mp ha), ?_⟩
      rw [List.take_left' hp, List.drop_left' hp]
    · rintro ⟨b, hb, rfl⟩
      have hp : (b.take k).length = k := by simp; exact hlen b hb
      rw [isPrime_split_iff hM hk hp, List.take_append_drop]
      exact (mem_primeImplicants hM'len b).mp hb

open TruthTable in
theorem terms_primeImplicants_erase {t : Formula} {cs₁ cs₂ : VarSet} {w : Var}
    (hvs : (cs₁ ++ w :: cs₂).Nodup) (hw : ¬ t.DependsOn w) :
    (primeImplicants ((tabulate t (cs₁ ++ cs₂)).satisfying.map Row.values)).value.map
        (·.toTerm (cs₁ ++ cs₂)) =
      (primeImplicants ((tabulate t (cs₁ ++ w :: cs₂)).satisfying.map Row.values)).value.map
        (·.toTerm (cs₁ ++ w :: cs₂)) := by
  have hM : ∀ y₁ b y₂, y₁.length = cs₁.length →
      (y₁ ++ b :: y₂ ∈ (tabulate t (cs₁ ++ w :: cs₂)).satisfying.map Row.values ↔
        y₁ ++ y₂ ∈ (tabulate t (cs₁ ++ cs₂)).satisfying.map Row.values) := by
    intro y₁ b y₂ h₁
    rw [mem_satisfying_values, mem_satisfying_values, value_assign_erase hvs hw h₁]
    simp only [List.length_append, List.length_cons]
    constructor <;> rintro ⟨hlen, hv⟩ <;> exact ⟨by omega, hv⟩
  have hMlen : ∀ y ∈ (tabulate t (cs₁ ++ w :: cs₂)).satisfying.map Row.values,
      y.length = (cs₁ ++ cs₂).length + 1 := fun y hy => by
    rw [(mem_satisfying_values.mp hy).1]
    simp
    omega
  have hM'len : ∀ y ∈ (tabulate t (cs₁ ++ cs₂)).satisfying.map Row.values,
      y.length = (cs₁ ++ cs₂).length := fun y hy => (mem_satisfying_values.mp hy).1
  rw [primeImplicants_split hM (by simp) hMlen hM'len, List.map_map]
  refine List.map_congr_left fun b hb => ?_
  have hblen := ((mem_primeImplicants hM'len b).mp hb).1.1
  rw [Function.comp_apply, toTerm_split (by rw [List.length_take, hblen, List.length_append]; omega),
    List.take_append_drop]

open TruthTable in
theorem terms_primeImplicants_sublist {t : Formula} {vs ws : VarSet} (hws : ws.Nodup)
    (hsub : vs.Sublist ws) (hdep : ∀ v ∈ ws, v ∉ vs → ¬ t.DependsOn v) :
    (primeImplicants ((tabulate t vs).satisfying.map Row.values)).value.map (·.toTerm vs) =
      (primeImplicants ((tabulate t ws).satisfying.map Row.values)).value.map (·.toTerm ws) :=
  Formula.eq_of_sublist_of_erase
    (fun vs => (primeImplicants ((tabulate t vs).satisfying.map Row.values)).value.map
      (·.toTerm vs))
    (fun _ _ _ hnd hw => terms_primeImplicants_erase hnd hw) hws hsub hdep

end QuineMcCluskey

end PropCalc
