import Mathlib
import PropCalc.Proofs.Arena

namespace PropCalc

namespace Formula

/-- The structural fold of a formula: the children first, left before right, then the node. -/
def fold {R : Type} (f : Shape R → R) : Formula → R
  | const b => f (.const b)
  | var v => f (.var v)
  | neg a => f (.neg (a.fold f))
  | bin op a b => f (.bin op (a.fold f) (b.fold f))

def foldChildren {ε R : Type} (f : Shape R → Except ε R) : Formula → Except ε (Shape R)
  | const b => .ok (.const b)
  | var v => .ok (.var v)
  | neg a => do return .neg (← a.tryFold f)
  | bin op a b => do return .bin op (← a.tryFold f) (← b.tryFold f)

section Fold

variable {ε R : Type} (f : Shape R → Except ε R)

theorem tryFold_eq_bind (s : Formula) : s.tryFold f = s.foldChildren f >>= f := by
  cases s with
  | const b => rfl
  | var v => rfl
  | neg a =>
    simp only [tryFold, foldChildren]
    cases a.tryFold f <;> rfl
  | bin op a b =>
    simp only [tryFold, foldChildren]
    cases a.tryFold f <;> cases b.tryFold f <;> rfl

theorem exists_child_of_foldChildren {s : Formula} {e : ε} (h : s.foldChildren f = .error e) :
    ∃ (k : Nat) (a : Formula), s.children[k]? = some a ∧ ∃ e', a.tryFold f = .error e' := by
  cases s with
  | const b => cases h
  | var v => cases h
  | neg a =>
    cases ha : a.tryFold f with
    | ok r => simp [foldChildren, ha, bind, Except.bind, pure, Except.pure] at h
    | error e' => exact ⟨0, a, rfl, e', ha⟩
  | bin op a b =>
    cases ha : a.tryFold f with
    | error e' => exact ⟨0, a, rfl, e', ha⟩
    | ok r =>
      cases hb : b.tryFold f with
      | ok r' => simp [foldChildren, ha, hb, bind, Except.bind, pure, Except.pure] at h
      | error e' => exact ⟨1, b, rfl, e', hb⟩

theorem size_lt_of_child {s a : Formula} {k : Nat} (h : s.children[k]? = some a) : a.size < s.size := by
  have hmem : a ∈ s.children := List.mem_of_getElem? h
  cases s with
  | const b | var v => simp [children] at hmem
  | neg a' =>
    obtain rfl : a = a' := by simpa [children] using hmem
    simp [size]
  | bin op a' b' =>
    rcases (by simpa [children] using hmem : a = a' ∨ a = b') with rfl | rfl <;> simp [size]

theorem tryFold_ok_fold (g : Shape R → R) (s : Formula) :
    s.tryFold (fun sh => (.ok (g sh) : Except ε R)) = .ok (s.fold g) := by
  induction s with
  | const b => rfl
  | var v => rfl
  | neg a ih =>
    rw [tryFold, ih]
    rfl
  | bin op a b iha ihb =>
    rw [tryFold, iha, ihb]
    rfl

variable (t : Formula)

/-- `f` fails at node `k` of the layout of `t` with the error `e`: the children of the node fold,
and `f` refuses the node they give. -/
def FailsAt (k : Nat) (e : ε) : Prop :=
  ∃ s sh, t.bfs[k]? = some s ∧ s.foldChildren f = .ok sh ∧ f sh = .error e

/-- `k` is the largest index at which `f` fails: it fails there with `e`, and every later node
folds. -/
def FailsLast (k : Nat) (e : ε) : Prop :=
  t.FailsAt f k e ∧ ∀ j s, k < j → t.bfs[j]? = some s → ∃ r, s.tryFold f = .ok r

theorem lt_size_of_failsAt {k : Nat} {e : ε} (h : t.FailsAt f k e) : k < t.size := by
  obtain ⟨s, -, hs, -⟩ := h
  rw [← length_bfs]
  exact (List.getElem?_eq_some_iff.mp hs).1

theorem exists_failsAt : ∀ {s : Formula} {j : Nat} {e : ε}, t.bfs[j]? = some s →
    s.tryFold f = .error e → ∃ k, j ≤ k ∧ ∃ e', t.FailsAt f k e'
  | s, j, e, hs, he => by
    cases hc : s.foldChildren f with
    | ok sh =>
      -- the children fold, so the node itself fails
      rw [tryFold_eq_bind, hc] at he
      exact ⟨j, le_rfl, e, s, sh, hs, hc, he⟩
    | error e₀ =>
      -- some child fails, and it stands after `j`
      obtain ⟨i, a, ha, e', hfa⟩ := exists_child_of_foldChildren f hc
      have hlt := lt_childStart t hs
      obtain ⟨k, hk, hfails⟩ := exists_failsAt (getElem?_bfs_child t hs ha) hfa
      exact ⟨k, by omega, hfails⟩
termination_by s => s.size
decreasing_by exact size_lt_of_child ha

theorem exists_failsLast {e : ε} (h : t.tryFold f = .error e) : ∃ k e', t.FailsLast f k e' := by
  classical
  let P : Nat → Prop := fun k => ∃ e', t.FailsAt f k e'
  obtain ⟨k₀, -, hk₀⟩ := exists_failsAt f t (getElem?_bfs_zero t) h
  have hP₀ : P k₀ := hk₀
  have hbound : ∀ {k}, P k → k ≤ t.size := fun ⟨_, hk⟩ => (lt_size_of_failsAt f t hk).le
  obtain ⟨e', he'⟩ := Nat.findGreatest_spec (hbound hP₀) hP₀
  refine ⟨Nat.findGreatest P t.size, e', he', fun j s hj hs => ?_⟩
  cases hfs : s.tryFold f with
  | ok r => exact ⟨r, rfl⟩
  | error e₁ =>
    -- a later failing subtree would have a failing node after the largest one
    obtain ⟨k, hk, hfails⟩ := exists_failsAt f t hs hfs
    have hPk : P k := hfails
    exact absurd hPk (Nat.findGreatest_is_greatest (by omega) (hbound hPk))

theorem tryCollapse_of_failsLast {k : Nat} {e : ε} (h : t.FailsLast f k e) :
    t.layout.tryCollapse f = .error e := by
  obtain ⟨⟨s, sh, hs, hc, he⟩, hlater⟩ := h
  have hfold : s.tryFold f = .error e := by rw [tryFold_eq_bind, hc]; exact he
  exact tryCollapse_of_error f t hs hfold hlater

theorem tryCollapse_cases :
    (∃ r, t.tryFold f = .ok r ∧ t.layout.tryCollapse f = .ok (some r)) ∨
      ∃ k e, t.FailsLast f k e ∧ t.layout.tryCollapse f = .error e := by
  cases h : t.tryFold f with
  | ok r => exact .inl ⟨r, rfl, tryCollapse_of_tryFold f t h⟩
  | error e =>
    obtain ⟨k, e', hlast⟩ := exists_failsLast f t h
    exact .inr ⟨k, e', hlast, tryCollapse_of_failsLast f t hlast⟩

theorem tryCollapse_eq_ok_iff (x : Option R) :
    t.layout.tryCollapse f = .ok x ↔ ∃ r, x = some r ∧ t.tryFold f = .ok r := by
  constructor
  · intro h
    rcases tryCollapse_cases f t with ⟨r, hr, hcol⟩ | ⟨k, e, -, hcol⟩
    · rw [hcol] at h
      exact ⟨r, (Except.ok.inj h).symm, hr⟩
    · rw [hcol] at h
      cases h
  · rintro ⟨r, rfl, hr⟩
    exact tryCollapse_of_tryFold f t hr

theorem tryCollapse_eq_error_iff (e : ε) :
    t.layout.tryCollapse f = .error e ↔ ∃ k, t.FailsLast f k e := by
  constructor
  · intro h
    rcases tryCollapse_cases f t with ⟨r, -, hcol⟩ | ⟨k, e', hlast, hcol⟩
    · rw [hcol] at h
      cases h
    · rw [hcol] at h
      cases h
      exact ⟨k, hlast⟩
  · rintro ⟨k, hlast⟩
    exact tryCollapse_of_failsLast f t hlast

end Fold

theorem children_layout_once (t : Formula) :
    (∀ (p c : Nat) (n : Node), t.layout.nodes[p]? = some n → c ∈ n.children → p < c ∧ c < t.layout.size) ∧
      (t.layout.nodes.flatMap Shape.children).Nodup := by
  refine ⟨fun p c n hn hc => ⟨lt_of_mem_children t hn hc, ?_⟩, ?_⟩
  · have hmem : c ∈ t.layout.nodes.flatMap Shape.children :=
      List.mem_flatMap.mpr ⟨n, List.mem_of_getElem? hn, hc⟩
    rw [flatMap_children_layout, List.mem_range'_1] at hmem
    rw [size_layout]
    omega
  · rw [flatMap_children_layout]
    exact List.nodup_range'

theorem eq_of_join_getElem? {R : Type} {rs rs' : Array (Option R)} (hsize : rs.size = rs'.size)
    (h : ∀ j : Nat, rs[j]?.join = rs'[j]?.join) : rs = rs' := by
  apply Array.ext hsize
  intro j hj hj'
  simpa [Array.getElem?_eq_getElem hj, Array.getElem?_eq_getElem hj'] using h j

theorem collapseFrom_fold {R : Type} (g : Shape R → R) (t : Formula) :
    Layout.collapseFrom (fun sh => (.ok (g sh) : Except Empty R)) t.layout.nodes.zipIdx
        (Array.replicate t.layout.size none) =
      .ok (some ((Array.replicate t.layout.size none).setIfInBounds 0 (some (t.fold g)))) := by
  obtain ⟨rs, hcol, hrs⟩ := collapseFrom_of_ok (fun sh => (.ok (g sh) : Except Empty R)) t 0
    fun j s _ _ => ⟨_, tryFold_ok_fold g s⟩
  rw [List.drop_zero] at hcol
  rw [size_layout, hcol]
  congr 2
  have hsize : 0 < (Array.replicate t.size (none : Option R)).size := by simpa using t.size_pos
  apply eq_of_join_getElem? (by simpa using hrs.1)
  intro j
  rw [slotsFrom_zero_getElem? _ t hrs j, join_getElem?_setIfInBounds_some _ hsize, tryFold_ok_fold]
  by_cases hj : j = 0
  · simp [hj, Except.toOption]
  · simp [hj, Ne.symm hj]

/-- Folding a layout is a catamorphism. With a step that cannot fail, it gives the structural fold
of the formula, in the root's slot, every child's result having been taken by the node that lists
it. With a step that may fail, it succeeds exactly when the structural fold does, with its value,
and otherwise fails with the error of the largest index at which the step fails, every later node
having succeeded. -/
theorem tryCollapse_catamorphism (t : Formula) :
    (∀ {R : Type} (g : Shape R → R), t.layout.collapse? g = some (t.fold g) ∧
      Layout.collapseFrom (fun sh => (.ok (g sh) : Except Empty R)) t.layout.nodes.zipIdx
          (Array.replicate t.layout.size none) =
        .ok (some ((Array.replicate t.layout.size none).setIfInBounds 0 (some (t.fold g))))) ∧
    (∀ (p c : Nat) (n : Node), t.layout.nodes[p]? = some n → c ∈ n.children → p < c ∧ c < t.layout.size) ∧
    (t.layout.nodes.flatMap Shape.children).Nodup ∧
    ∀ {ε R : Type} (f : Shape R → Except ε R),
      (∀ x, t.layout.tryCollapse f = .ok x ↔ ∃ r, x = some r ∧ t.tryFold f = .ok r) ∧
      ∀ e, t.layout.tryCollapse f = .error e ↔ ∃ k, t.FailsLast f k e := by
  obtain ⟨hafter, honce⟩ := children_layout_once t
  refine ⟨fun g => ⟨?_, collapseFrom_fold g t⟩, hafter, honce,
    fun f => ⟨tryCollapse_eq_ok_iff f t, tryCollapse_eq_error_iff f t⟩⟩
  rw [Layout.collapse?, tryCollapse_of_tryFold _ t (tryFold_ok_fold g t)]

end Formula

end PropCalc
