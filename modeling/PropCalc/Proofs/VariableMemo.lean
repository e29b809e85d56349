import Mathlib
import PropCalc.Formula.Memo
import PropCalc.Proofs.Catamorphism

namespace PropCalc

theorem Traced.exceptBind_run_of_ok {ε α β : Type} {x : ExceptT ε Traced α} {a : α} {rs : List Record}
    (h : x.run = ⟨.ok a, rs⟩) (f : α → ExceptT ε Traced β) :
    (x >>= f).run = ⟨(f a).run.value, rs ++ (f a).run.records⟩ := by
  show x.run >>= _ = _
  rw [h]
  rfl

namespace Layout

/-- The nodes of the subtree at node `i`, in left-to-right pre-order: `i`, then the subtrees at its
children, found through the child indices of the layout. The subtree `s` of the formula at `i`
bounds the walk. -/
def preorder (L : Layout) (s : Formula) (i : Nat) : List Nat :=
  i :: match s, L.nodes[i]? with
    | .neg a, some (.neg j) => L.preorder a j
    | .bin _ a b, some (.bin _ j k) => L.preorder a j ++ L.preorder b k
    | _, _ => []

end Layout

namespace Memo

def has (m : Memo) (i : Nat) : Bool := (m.slot i).isSome

/-- The children of a filled node are filled. -/
def Closed (L : Layout) (m : Memo) : Prop :=
  ∀ i n c, m.has i = true → L.nodes[i]? = some n → c ∈ n.children → m.has c = true

/-- Whether a walk from node `i` stops at node `j` of its subtree: `j` is filled, and it is `i`
or its parent is not filled. -/
def stopsAt (m : Memo) (L : Layout) (i j : Nat) : Bool :=
  m.has j && (j == i || !(L.parentOf j).any m.has)

def hitRecord (i : Nat) : Record := ⟨.trace, .eval, hitMessage i⟩

theorem slot_cons (m : Memo) (i j : Nat) (vs : VarSet) :
    (⟨(i, vs) :: m.slots⟩ : Memo).slot j = if j = i then some vs else m.slot j := by
  by_cases h : j = i
  · simp [slot, List.lookup, h]
  · simp [slot, List.lookup, h, beq_false_of_ne h]

theorem has_cons {m : Memo} {i j : Nat} {vs : VarSet} :
    (⟨(i, vs) :: m.slots⟩ : Memo).has j = true ↔ j = i ∨ m.has j = true := by
  by_cases h : j = i <;> simp [has, slot_cons, h]

theorem getOrInit_of_slot {m : Memo} {i : Nat} {vs : VarSet} (h : m.slot i = none) :
    m.getOrInit i vs = (vs, ⟨(i, vs) :: m.slots⟩) := by
  simp [getOrInit, h]

theorem closed_empty (L : Layout) : Closed L {} := by
  intro i n c h
  simp [has, slot] at h

theorem has_eq_false_of_has_iff {m m' : Memo} {P : Nat → Prop} (h : ∀ j, m'.has j = true ↔ m.has j = true ∨ P j)
    {i : Nat} (hi : m.has i = false) (hP : ¬ P i) : m'.has i = false := by
  simpa [hi, hP] using h i

section Steps

variable {nodes : List Node} {d : Nat} {m : Memo} {i : Nat}

theorem walk_of_slot {vs : VarSet} (h : m.slot i = some vs) :
    (walk nodes (d + 1) m i).run = ⟨.ok (vs, m), [hitRecord i]⟩ := by
  simp only [walk, h]
  rfl

theorem walk_const {b : Bool} (h : m.slot i = none) (hn : nodes[i]? = some (.const b)) :
    (walk nodes (d + 1) m i).run = ⟨.ok (m.getOrInit i []), []⟩ := by
  simp only [walk, h, hn]
  rfl

theorem walk_var {v : Var} (h : m.slot i = none) (hn : nodes[i]? = some (.var v)) :
    (walk nodes (d + 1) m i).run = ⟨.ok (m.getOrInit i [v]), []⟩ := by
  simp only [walk, h, hn]
  rfl

theorem walk_neg {j : Nat} (h : m.slot i = none) (hn : nodes[i]? = some (.neg j))
    {va : VarSet} {m₁ : Memo} {ra : List Record} (ha : (walk nodes d m j).run = ⟨.ok (va, m₁), ra⟩) :
    (walk nodes (d + 1) m i).run = ⟨.ok (m₁.getOrInit i va), ra⟩ := by
  simp only [walk, h, hn]
  rw [Traced.exceptBind_run_of_ok ha, Traced.exceptPure_records, List.append_nil]
  rfl

theorem walk_bin {op : Connective} {j k : Nat} (h : m.slot i = none) (hn : nodes[i]? = some (.bin op j k))
    {va vb : VarSet} {m₁ m₂ : Memo} {ra rb : List Record} (ha : (walk nodes d m j).run = ⟨.ok (va, m₁), ra⟩)
    (hb : (walk nodes d m₁ k).run = ⟨.ok (vb, m₂), rb⟩) :
    (walk nodes (d + 1) m i).run = ⟨.ok (m₂.getOrInit i (va.union vb)), ra ++ rb⟩ := by
  simp only [walk, h, hn]
  rw [Traced.exceptBind_run_of_ok ha]
  dsimp only
  rw [Traced.exceptBind_run_of_ok hb]
  simp

end Steps

/-- A memo is valid for a formula when each filled slot holds the variables of the subtree at its
node, and the children of a filled node are filled. -/
structure Valid (t : Formula) (m : Memo) : Prop where
  sound : ∀ j vs, m.slot j = some vs → ∃ s, t.bfs[j]? = some s ∧ vs = s.vars
  closed : m.Closed t.layout

theorem valid_empty (t : Formula) : Valid t {} where
  sound j vs h := by simp [slot] at h
  closed := closed_empty t.layout

end Memo

/-- A query on the variables of a formula. -/
inductive VarQuery where
  | subtree (i : Nat)
  | whole
  | constancy

/-- A reply: a set of variables, or whether the formula is constant. -/
inductive VarReply where
  | vars (vs : VarSet)
  | constant (b : Bool)

namespace Formula

/-- The nodes of the subtree at node `i` of the layout, in pre-order. -/
def subtreeNodes (t : Formula) (i : Nat) : List Nat := t.layout.preorder (t.bfs[i]?.getD t) i

end Formula

namespace VarQuery

def node : VarQuery → Nat
  | subtree i => i
  | whole | constancy => 0

def ask (t : Formula) (m : Memo) : VarQuery → ExceptT Panic Traced (VarReply × Memo)
  | subtree i => do
    let (vs, m') ← t.variablesOf m i
    pure (.vars vs, m')
  | whole => do
    let (vs, m') ← t.variablesIn m
    pure (.vars vs, m')
  | constancy => do
    let (b, m') ← t.isConstantIn m
    pure (.constant b, m')

/-- The reply to a query from the variables of the subtree it asks about. -/
def reply : VarQuery → VarSet → VarReply
  | constancy, vs => .constant vs.isEmpty
  | _, vs => .vars vs

/-- A right reply: the variables of the variable nodes of the queried subtree, in increasing
order; for constancy, whether the layout has no variable node. -/
def Answers (t : Formula) : VarQuery → VarReply → Prop
  | constancy, .constant b => (b = true ↔ ∀ j ∈ t.subtreeNodes 0, ∀ x, t.layout.nodes[j]? ≠ some (.var x))
  | constancy, .vars _ => False
  | q, .vars vs =>
    VarSet.Increasing vs ∧ ∀ x, x ∈ vs ↔ ∃ j ∈ t.subtreeNodes q.node, t.layout.nodes[j]? = some (.var x)
  | _, .constant _ => False

end VarQuery

namespace Formula

/-- The memo after answering queries in order on a fresh formula, or the failure that stopped
them. -/
def memoAfter (t : Formula) (qs : List VarQuery) : Except Panic Memo :=
  qs.foldlM (fun m q => (q.ask t m).run.value.map Prod.snd) {}

section Subtrees

variable {t : Formula}

theorem subtree_induction {motive : (i : Nat) → (s : Formula) → t.bfs[i]? = some s → Prop}
    (step : ∀ i s (hs : t.bfs[i]? = some s),
      (∀ k a (ha : s.children[k]? = some a), motive _ a (getElem?_bfs_child t hs ha)) → motive i s hs)
    (i : Nat) (s : Formula) (hs : t.bfs[i]? = some s) : motive i s hs :=
  step i s hs fun k a ha => subtree_induction step _ a (getElem?_bfs_child t hs ha)
termination_by s.size
decreasing_by exact size_lt_of_child ha

theorem exists_child_iff {P : Nat → Formula → Prop} (s : Formula) :
    (∃ k a, s.children[k]? = some a ∧ P k a) ↔
      match s with
      | neg a => P 0 a
      | bin _ a b => P 0 a ∨ P 1 b
      | _ => False := by
  cases s with
  | const b | var v => simp [children]
  | neg a =>
    constructor
    · rintro ⟨k, a', hk, h⟩
      obtain ⟨rfl, rfl⟩ : k = 0 ∧ a = a' := by
        rcases k with _ | k <;> simp_all [children]
      exact h
    · exact fun h => ⟨0, a, rfl, h⟩
  | bin op a b =>
    constructor
    · rintro ⟨k, a', hk, h⟩
      rcases k with _ | _ | k
      · obtain rfl : a = a' := by simpa [children] using hk
        exact .inl h
      · obtain rfl : b = a' := by simpa [children] using hk
        exact .inr h
      · simp [children] at hk
    · rintro (h | h)
      · exact ⟨0, a, rfl, h⟩
      · exact ⟨1, b, rfl, h⟩

theorem preorder_eq_cons (L : Layout) (s : Formula) (i : Nat) :
    L.preorder s i = i :: (L.preorder s i).tail := by
  rw [Layout.preorder.eq_def]
  rfl

theorem mem_preorder_tail {i : Nat} {s : Formula} (hs : t.bfs[i]? = some s) {j : Nat} :
    j ∈ (t.layout.preorder s i).tail ↔
      ∃ k a, s.children[k]? = some a ∧ j ∈ t.layout.preorder a (childStart t.bfs 1 i + k) := by
  rw [Layout.preorder.eq_def t.layout s i, getElem?_layout_nodes_of_bfs hs, List.tail_cons, exists_child_iff]
  cases s with
  | const b | var v => simp
  | neg a => rfl
  | bin op a b => simp [nodeFrom]

theorem mem_preorder {i : Nat} {s : Formula} (hs : t.bfs[i]? = some s) {j : Nat} :
    j ∈ t.layout.preorder s i ↔
      j = i ∨ ∃ k a, s.children[k]? = some a ∧ j ∈ t.layout.preorder a (childStart t.bfs 1 i + k) := by
  rw [preorder_eq_cons, List.mem_cons, mem_preorder_tail hs]

theorem mem_preorder_self (L : Layout) (s : Formula) (i : Nat) : i ∈ L.preorder s i := by
  rw [preorder_eq_cons]
  exact List.mem_cons_self

theorem exists_child_of_mem_children {i c : Nat} {s : Formula} {n : Node} (hs : t.bfs[i]? = some s)
    (hn : t.layout.nodes[i]? = some n) (hc : c ∈ n.children) :
    ∃ k a, s.children[k]? = some a ∧ c = childStart t.bfs 1 i + k := by
  rw [getElem?_layout_nodes_of_bfs hs] at hn
  obtain rfl := Option.some.inj hn
  rw [children_nodeFrom, List.mem_range'_1] at hc
  have hk : c - childStart t.bfs 1 i < s.children.length := by
    rw [← arity_eq_length_children]
    omega
  exact ⟨_, _, List.getElem?_eq_getElem hk, by omega⟩

theorem le_of_mem_preorder {i j : Nat} {s : Formula} (hs : t.bfs[i]? = some s)
    (hj : j ∈ t.layout.preorder s i) : i ≤ j := by
  induction i, s, hs using subtree_induction generalizing j with
  | step i s hs ih =>
    rcases (mem_preorder hs).mp hj with rfl | ⟨k, a, ha, hj⟩
    · exact le_rfl
    · have := ih k a ha hj
      have := lt_childStart t hs
      omega

theorem parentOf_mem_preorder {i j : Nat} {s : Formula} (hs : t.bfs[i]? = some s)
    (hj : j ∈ t.layout.preorder s i) (hji : j ≠ i) :
    ∃ p, t.layout.parentOf j = some p ∧ p ∈ t.layout.preorder s i := by
  induction i, s, hs using subtree_induction generalizing j with
  | step i s hs ih =>
    rcases (mem_preorder hs).mp hj with rfl | ⟨k, a, ha, hj⟩
    · exact absurd rfl hji
    by_cases hc : j = childStart t.bfs 1 i + k
    · subst hc
      exact ⟨i, parentOf_child hs ha, mem_preorder_self _ s i⟩
    · obtain ⟨p, hp, hpa⟩ := ih k a ha hj hc
      exact ⟨p, hp, (mem_preorder hs).mpr (.inr ⟨k, a, ha, hpa⟩)⟩

theorem child_mem_preorder {i j c : Nat} {s : Formula} {n : Node} (hs : t.bfs[i]? = some s)
    (hj : j ∈ t.layout.preorder s i) (hn : t.layout.nodes[j]? = some n) (hc : c ∈ n.children) :
    c ∈ t.layout.preorder s i := by
  induction i, s, hs using subtree_induction generalizing j with
  | step i s hs ih =>
    rcases (mem_preorder hs).mp hj with rfl | ⟨k, a, ha, hj⟩
    · obtain ⟨k, a, ha, rfl⟩ := exists_child_of_mem_children hs hn hc
      exact (mem_preorder hs).mpr (.inr ⟨k, a, ha, mem_preorder_self _ a _⟩)
    · exact (mem_preorder hs).mpr (.inr ⟨k, a, ha, ih k a ha hj hn⟩)

theorem preorder_nested {u v x : Nat} {s s' : Formula} (hs : t.bfs[u]? = some s)
    (hx : x ∈ t.layout.preorder s u) (hs' : t.bfs[v]? = some s') (hx' : x ∈ t.layout.preorder s' v) :
    u ∈ t.layout.preorder s' v ∨ v ∈ t.layout.preorder s u := by
  induction u, s, hs using subtree_induction with
  | step u s hs ih =>
    rcases (mem_preorder hs).mp hx with rfl | ⟨k, a, ha, hx⟩
    · exact .inl hx'
    have hsub : ∀ {y}, y ∈ t.layout.preorder a (childStart t.bfs 1 u + k) → y ∈ t.layout.preorder s u :=
      fun hy => (mem_preorder hs).mpr (.inr ⟨k, a, ha, hy⟩)
    rcases ih k a ha hx with hc | hv
    · -- the child is in the other subtree: so is its parent, unless the child is its root
      by_cases hcv : childStart t.bfs 1 u + k = v
      · exact .inr (hsub (hcv ▸ mem_preorder_self _ a _))
      · obtain ⟨p, hp, hpv⟩ := parentOf_mem_preorder hs' hc hcv
        rw [parentOf_child hs ha, Option.some.injEq] at hp
        subst hp
        exact .inl hpv
    · exact .inr (hsub hv)

theorem not_mem_preorder_of_sibling {i k₁ k₂ : Nat} {s a₁ a₂ : Formula} (hs : t.bfs[i]? = some s)
    (h₁ : s.children[k₁]? = some a₁) (h₂ : s.children[k₂]? = some a₂) (hk : k₁ ≠ k₂) {x : Nat}
    (hx : x ∈ t.layout.preorder a₁ (childStart t.bfs 1 i + k₁)) :
    x ∉ t.layout.preorder a₂ (childStart t.bfs 1 i + k₂) := by
  intro hx'
  have hs₁ := getElem?_bfs_child t hs h₁
  have hs₂ := getElem?_bfs_child t hs h₂
  have hi := lt_childStart t hs
  -- a child inside its sibling's subtree would put their common parent there too
  have hout : ∀ {k k' a a'}, s.children[k]? = some a → s.children[k']? = some a' → k ≠ k' →
      t.bfs[childStart t.bfs 1 i + k']? = some a' →
      childStart t.bfs 1 i + k ∉ t.layout.preorder a' (childStart t.bfs 1 i + k') := by
    intro k k' a a' ha ha' hkk' hs' hmem
    obtain ⟨p, hp, hpa⟩ := parentOf_mem_preorder hs' hmem (by omega)
    rw [parentOf_child hs ha, Option.some.injEq] at hp
    subst hp
    have := le_of_mem_preorder hs' hpa
    omega
  rcases preorder_nested hs₁ hx hs₂ hx' with h | h
  · exact hout h₁ h₂ hk hs₂ h
  · exact hout h₂ h₁ hk.symm hs₁ h

theorem mem_vars_iff_children {x : Var} (s : Formula) :
    x ∈ s.vars ↔ s = var x ∨ ∃ (k : Nat) (a : Formula), s.children[k]? = some a ∧ x ∈ a.vars := by
  rw [exists_child_iff]
  cases s with
  | const b => simp
  | var v => simp [eq_comm]
  | neg a => simp
  | bin op a b => simp

theorem mem_vars_iff_preorder {x : Var} {i : Nat} {s : Formula} (hs : t.bfs[i]? = some s) :
    x ∈ s.vars ↔ ∃ j ∈ t.layout.preorder s i, t.layout.nodes[j]? = some (.var x) := by
  induction i, s, hs using subtree_induction with
  | step i s hs ih =>
    have hroot : t.layout.nodes[i]? = some (.var x) ↔ s = var x := by
      rw [getElem?_layout_nodes_eq_var_iff, hs, Option.some.injEq]
    rw [mem_vars_iff_children]
    constructor
    · rintro (rfl | ⟨k, a, ha, hx⟩)
      · exact ⟨i, mem_preorder_self _ _ i, hroot.mpr rfl⟩
      · obtain ⟨j, hj, hvar⟩ := (ih k a ha).mp hx
        exact ⟨j, (mem_preorder hs).mpr (.inr ⟨k, a, ha, hj⟩), hvar⟩
    · rintro ⟨j, hj, hvar⟩
      rcases (mem_preorder hs).mp hj with rfl | ⟨k, a, ha, hj⟩
      · exact .inl (hroot.mp hvar)
      · exact .inr ⟨k, a, ha, (ih k a ha).mpr ⟨j, hj, hvar⟩⟩

theorem has_of_mem_preorder {m : Memo} (hm : m.Closed t.layout) {i j : Nat} {s : Formula}
    (hs : t.bfs[i]? = some s) (hi : m.has i = true) (hj : j ∈ t.layout.preorder s i) : m.has j = true := by
  induction i, s, hs using subtree_induction generalizing j with
  | step i s hs ih =>
    rcases (mem_preorder hs).mp hj with rfl | ⟨k, a, ha, hj⟩
    · exact hi
    · exact ih k a ha (hm i _ _ hi (getElem?_layout_nodes_of_bfs hs) (mem_children_nodeFrom _ ha)) hj

theorem preorder_leaf {i : Nat} {s : Formula} (hs : t.bfs[i]? = some s) (h : s.arity = 0) :
    t.layout.preorder s i = [i] := by
  rw [Layout.preorder.eq_def, getElem?_layout_nodes_of_bfs hs]
  cases s with
  | const b | var v => rfl
  | neg a | bin op a b => simp [arity] at h

theorem preorder_neg {i : Nat} {a : Formula} (hs : t.bfs[i]? = some (neg a)) :
    t.layout.preorder (neg a) i = i :: t.layout.preorder a (childStart t.bfs 1 i) := by
  rw [Layout.preorder.eq_def, getElem?_layout_nodes_of_bfs hs]
  rfl

theorem preorder_bin {i : Nat} {op : Connective} {a b : Formula} (hs : t.bfs[i]? = some (bin op a b)) :
    t.layout.preorder (bin op a b) i =
      i :: (t.layout.preorder a (childStart t.bfs 1 i) ++ t.layout.preorder b (childStart t.bfs 1 i + 1)) := by
  rw [Layout.preorder.eq_def, getElem?_layout_nodes_of_bfs hs]
  rfl

end Subtrees

/-! ### One walk -/

section Walk

variable {t : Formula}

theorem size_le_of_bfs {i : Nat} {s : Formula} (hs : t.bfs[i]? = some s) : s.size ≤ t.size := by
  refine forall_mem_levelOrder (P := fun s => s.size ≤ t.size) (fun s hle a ha => ?_) [t]
    (by simp) s (List.mem_of_getElem? hs)
  obtain ⟨k, hk⟩ := List.mem_iff_getElem?.mp ha
  have := size_lt_of_child hk
  omega

theorem not_mem_preorder_child {i k : Nat} {s a : Formula} (hs : t.bfs[i]? = some s)
    (ha : s.children[k]? = some a) : i ∉ t.layout.preorder a (childStart t.bfs 1 i + k) := fun hi => by
  have := le_of_mem_preorder (getElem?_bfs_child t hs ha) hi
  have := lt_childStart t hs
  omega

theorem slot_eq_none_of_has {m : Memo} {i : Nat} (h : m.has i = false) : m.slot i = none := by
  simpa [Memo.has] using h

theorem mem_preorder_tail_of_mem_children {i c : Nat} {s : Formula} {n : Node} (hs : t.bfs[i]? = some s)
    (hn : t.layout.nodes[i]? = some n) (hc : c ∈ n.children) : c ∈ (t.layout.preorder s i).tail := by
  obtain ⟨k, a, ha, rfl⟩ := exists_child_of_mem_children hs hn hc
  exact (mem_preorder_tail hs).mpr ⟨k, a, ha, mem_preorder_self _ a _⟩

/-- Storing the variables of node `i` keeps a memo valid once the subtree below `i` is filled. -/
theorem valid_store {m : Memo} (hm : m.Valid t) {i : Nat} {s : Formula} (hs : t.bfs[i]? = some s)
    (hbelow : ∀ j ∈ (t.layout.preorder s i).tail, m.has j = true) :
    (⟨(i, s.vars) :: m.slots⟩ : Memo).Valid t where
  sound j vs h := by
    rw [Memo.slot_cons] at h
    by_cases hj : j = i
    · rw [if_pos hj, Option.some.injEq] at h
      subst hj h
      exact ⟨s, hs, rfl⟩
    · rw [if_neg hj] at h
      exact hm.sound j vs h
  closed j n c hj hn hc' := by
    rw [Memo.has_cons] at hj ⊢
    rcases hj with rfl | hj
    · exact .inr (hbelow c (mem_preorder_tail_of_mem_children hs hn hc'))
    · exact .inr (hm.closed j n c hj hn hc')

theorem filter_stopsAt_of_has {m : Memo} (hm : m.Closed t.layout) {i : Nat} {s : Formula}
    (hs : t.bfs[i]? = some s) (hi : m.has i = true) :
    (t.layout.preorder s i).filter (m.stopsAt t.layout i) = [i] := by
  have hself : m.stopsAt t.layout i i = true := by simp [Memo.stopsAt, hi]
  rw [preorder_eq_cons, List.filter_cons, if_pos hself, List.filter_eq_nil_iff.mpr]
  intro j hj
  obtain ⟨k, a, ha, hja⟩ := (mem_preorder_tail hs).mp hj
  have hij : i < j := by
    have := le_of_mem_preorder (getElem?_bfs_child t hs ha) hja
    have := lt_childStart t hs
    omega
  -- the parent of a later node of the subtree is in the subtree, hence filled
  obtain ⟨p, hp, hps⟩ := parentOf_mem_preorder hs (List.mem_of_mem_tail hj) (by omega)
  have hpm := has_of_mem_preorder hm hs hi hps
  simp [Memo.stopsAt, hp, hpm, show j ≠ i by omega]

theorem filter_stopsAt_child {m m' : Memo} {i k : Nat} {s a : Formula} (hs : t.bfs[i]? = some s)
    (ha : s.children[k]? = some a) (hi : m.has i = false)
    (hagree : ∀ x ∈ t.layout.preorder a (childStart t.bfs 1 i + k), m'.has x = m.has x) :
    (t.layout.preorder a (childStart t.bfs 1 i + k)).filter (m.stopsAt t.layout i) =
      (t.layout.preorder a (childStart t.bfs 1 i + k)).filter
        (m'.stopsAt t.layout (childStart t.bfs 1 i + k)) := by
  have hsa := getElem?_bfs_child t hs ha
  have hlt := lt_childStart t hs
  refine List.filter_congr fun j hj => ?_
  have hcj := le_of_mem_preorder hsa hj
  by_cases hjc : j = childStart t.bfs 1 i + k
  · -- the child itself: its parent is the node that is not filled
    subst hjc
    simp [Memo.stopsAt, parentOf_child hs ha, hi, hagree _ hj]
  · obtain ⟨p, hp, hpa⟩ := parentOf_mem_preorder hsa hj hjc
    have hji : (j == i) = false := beq_false_of_ne (by omega)
    have hjk : (j == childStart t.bfs 1 i + k) = false := beq_false_of_ne hjc
    simp [Memo.stopsAt, hp, hagree _ hj, hagree _ hpa, hji, hjk]

/-- What a walk at node `i`, the root of the subtree `s`, gives from the memo `m`: the variables of
`s`, a valid memo that has gained the nodes of `s`, and a trace record for each node of `s` where
the walk stops. -/
def Walked (t : Formula) (m : Memo) (i : Nat) (s : Formula) (r : Traced (Except Panic (VarSet × Memo))) :
    Prop :=
  ∃ m', r = ⟨.ok (s.vars, m'), ((t.layout.preorder s i).filter (m.stopsAt t.layout i)).map Memo.hitRecord⟩ ∧
    m'.Valid t ∧ ∀ j, m'.has j = true ↔ m.has j = true ∨ j ∈ t.layout.preorder s i

variable {m : Memo} {i d : Nat}

theorem walked_of_has (hm : m.Valid t) {s : Formula} (hs : t.bfs[i]? = some s) (hi : m.has i = true) :
    Walked t m i s (Memo.walk t.layout.nodes (d + 1) m i).run := by
  obtain ⟨vs, hvs⟩ := Option.isSome_iff_exists.mp hi
  obtain ⟨s', hs', rfl⟩ := hm.sound i vs hvs
  obtain rfl : s' = s := Option.some.inj (hs'.symm.trans hs)
  refine ⟨m, ?_, hm, fun j => ⟨.inl, fun h => h.elim id (has_of_mem_preorder hm.closed hs hi)⟩⟩
  rw [Memo.walk_of_slot hvs, filter_stopsAt_of_has hm.closed hs hi]
  rfl

theorem walked_leaf (hm : m.Valid t) {s : Formula} (hs : t.bfs[i]? = some s) (hi : m.has i = false)
    (hleaf : s.arity = 0) : Walked t m i s (Memo.walk t.layout.nodes (d + 1) m i).run := by
  have hslot := slot_eq_none_of_has hi
  have hn := getElem?_layout_nodes_of_bfs hs
  have hrun : (Memo.walk t.layout.nodes (d + 1) m i).run = ⟨.ok (m.getOrInit i s.vars), []⟩ := by
    cases s with
    | const b => exact Memo.walk_const hslot hn
    | var v => exact Memo.walk_var hslot hn
    | neg a | bin op a b => simp [arity] at hleaf
  have hnot : m.stopsAt t.layout i i = false := by simp [Memo.stopsAt, hi]
  refine ⟨_, ?_, valid_store hm hs ?_, fun j => ?_⟩
  · rw [hrun, Memo.getOrInit_of_slot hslot, preorder_leaf hs hleaf]
    simp [hnot]
  · rw [preorder_leaf hs hleaf]
    exact fun j hj => absurd hj List.not_mem_nil
  · rw [Memo.has_cons, preorder_leaf hs hleaf, List.mem_singleton]
    tauto

theorem walked_neg {a : Formula} (hs : t.bfs[i]? = some (neg a)) (hi : m.has i = false)
    (ha : Walked t m (childStart t.bfs 1 i) a (Memo.walk t.layout.nodes d m (childStart t.bfs 1 i)).run) :
    Walked t m i (neg a) (Memo.walk t.layout.nodes (d + 1) m i).run := by
  obtain ⟨m₁, hrun, hm₁, hhas⟩ := ha
  have hout : i ∉ t.layout.preorder a (childStart t.bfs 1 i) := not_mem_preorder_child hs (k := 0) rfl
  have hslot₁ := slot_eq_none_of_has (Memo.has_eq_false_of_has_iff hhas hi hout)
  have hnot : ¬ m.stopsAt t.layout i i = true := by simp [Memo.stopsAt, hi]
  have hleft := filter_stopsAt_child hs (k := 0) rfl hi fun _ _ => rfl
  rw [Nat.add_zero] at hleft
  refine ⟨_, ?_, valid_store hm₁ hs ?_, fun j => ?_⟩
  · rw [Memo.walk_neg (slot_eq_none_of_has hi) (getElem?_layout_nodes_of_bfs hs) hrun,
      Memo.getOrInit_of_slot hslot₁, preorder_neg hs, List.filter_cons_of_neg hnot, hleft]
    rfl
  · intro j hj
    rw [preorder_neg hs, List.tail_cons] at hj
    exact (hhas j).mpr (.inr hj)
  · rw [Memo.has_cons, hhas, preorder_neg hs, List.mem_cons]
    tauto

theorem walked_bin {op : Connective} {a b : Formula} (hs : t.bfs[i]? = some (bin op a b))
    (hi : m.has i = false)
    (ha : Walked t m (childStart t.bfs 1 i) a (Memo.walk t.layout.nodes d m (childStart t.bfs 1 i)).run)
    (hb : ∀ m₁ : Memo, m₁.Valid t → Walked t m₁ (childStart t.bfs 1 i + 1) b
      (Memo.walk t.layout.nodes d m₁ (childStart t.bfs 1 i + 1)).run) :
    Walked t m i (bin op a b) (Memo.walk t.layout.nodes (d + 1) m i).run := by
  obtain ⟨m₁, hrun₁, hm₁, hhas₁⟩ := ha
  obtain ⟨m₂, hrun₂, hm₂, hhas₂⟩ := hb m₁ hm₁
  have houta : i ∉ t.layout.preorder a (childStart t.bfs 1 i) := not_mem_preorder_child hs (k := 0) rfl
  have houtb := not_mem_preorder_child hs (k := 1) rfl
  have hslot₂ := slot_eq_none_of_has
    (Memo.has_eq_false_of_has_iff hhas₂ (Memo.has_eq_false_of_has_iff hhas₁ hi houta) houtb)
  -- the left walk fills only nodes of the left subtree, so the right walk finds `m` there
  have hagree : ∀ x ∈ t.layout.preorder b (childStart t.bfs 1 i + 1), m₁.has x = m.has x := by
    intro x hx
    have hxa : x ∉ t.layout.preorder a (childStart t.bfs 1 i) :=
      not_mem_preorder_of_sibling hs (show (bin op a b).children[1]? = some b from rfl)
        (show (bin op a b).children[0]? = some a from rfl) (by decide) hx
    rw [Bool.eq_iff_iff, hhas₁]
    simp [hxa]
  have hnot : ¬ m.stopsAt t.layout i i = true := by simp [Memo.stopsAt, hi]
  have hleft := filter_stopsAt_child hs (k := 0) rfl hi fun _ _ => rfl
  have hright := filter_stopsAt_child hs (k := 1) rfl hi hagree
  rw [Nat.add_zero] at hleft
  refine ⟨_, ?_, valid_store hm₂ hs ?_, fun j => ?_⟩
  · rw [Memo.walk_bin (slot_eq_none_of_has hi) (getElem?_layout_nodes_of_bfs hs) hrun₁ hrun₂,
      Memo.getOrInit_of_slot hslot₂, preorder_bin hs, List.filter_cons_of_neg hnot, List.filter_append,
      hleft, hright, List.map_append]
    rfl
  · intro j hj
    rw [preorder_bin hs, List.tail_cons, List.mem_append] at hj
    rcases hj with hj | hj
    · exact (hhas₂ j).mpr (.inl ((hhas₁ j).mpr (.inr hj)))
    · exact (hhas₂ j).mpr (.inr hj)
  · rw [Memo.has_cons, hhas₂, hhas₁, preorder_bin hs, List.mem_cons, List.mem_append]
    tauto

theorem walked_walk (hm : m.Valid t) {s : Formula} (hs : t.bfs[i]? = some s) {depth : Nat}
    (hd : s.size ≤ depth) : Walked t m i s (Memo.walk t.layout.nodes depth m i).run := by
  induction i, s, hs using subtree_induction generalizing m depth with
  | step i s hs ih =>
    -- a subtree has a node, so the walk has a unit of depth to spend here
    obtain ⟨d, rfl⟩ : ∃ d, depth = d + 1 := ⟨depth - 1, by have := s.size_pos; omega⟩
    cases hi : m.has i
    case true => exact walked_of_has hm hs hi
    case false =>
      cases s with
      | const b => exact walked_leaf hm hs hi rfl
      | var v => exact walked_leaf hm hs hi rfl
      | neg a =>
        have hsize := size_lt_of_child (s := neg a) (a := a) (k := 0) rfl
        exact walked_neg hs hi (ih 0 a rfl hm (show a.size ≤ d by omega))
      | bin op a b =>
        have hsa := size_lt_of_child (s := bin op a b) (a := a) (k := 0) rfl
        have hsb := size_lt_of_child (s := bin op a b) (a := b) (k := 1) rfl
        exact walked_bin hs hi (ih 0 a rfl hm (show a.size ≤ d by omega))
          fun m₁ hm₁ => ih 1 b rfl hm₁ (show b.size ≤ d by omega)

theorem variablesOf_walked (hm : m.Valid t) {s : Formula} (hs : t.bfs[i]? = some s) :
    Walked t m i s (t.variablesOf m i).run :=
  walked_walk hm hs (by rw [size_layout]; exact size_le_of_bfs hs)

theorem variablesIn_of_valid (hm : m.Valid t) :
    ∃ m', (t.variablesIn m).run.value = .ok (t.vars, m') ∧ m'.Valid t := by
  obtain ⟨m', hrun, hm', -⟩ := variablesOf_walked hm (getElem?_bfs_zero t)
  exact ⟨m', by rw [variablesIn, hrun], hm'⟩

end Walk

/-! ### Histories of queries -/

section Queries

variable {t : Formula} {m : Memo}

theorem subtreeNodes_of_bfs {i : Nat} {s : Formula} (hs : t.bfs[i]? = some s) :
    t.subtreeNodes i = t.layout.preorder s i := by
  rw [subtreeNodes, hs, Option.getD_some]

theorem answers_of_bfs {q : VarQuery} {s : Formula} (hs : t.bfs[q.node]? = some s) :
    q.Answers t (q.reply s.vars) := by
  have hmem := fun x => mem_vars_iff_preorder (x := x) hs
  rw [← subtreeNodes_of_bfs hs] at hmem
  cases q with
  | subtree i => exact ⟨vars_increasing s, hmem⟩
  | whole => exact ⟨vars_increasing s, hmem⟩
  | constancy =>
    show s.vars.isEmpty = true ↔ _
    rw [List.isEmpty_iff, List.eq_nil_iff_forall_not_mem]
    simp only [hmem, VarQuery.node]
    grind

theorem ask_run {q : VarQuery} {s : Formula} {m' : Memo} {rs : List Record}
    (hw : (t.variablesOf m q.node).run = ⟨.ok (s.vars, m'), rs⟩) :
    (q.ask t m).run = ⟨.ok (q.reply s.vars, m'), rs⟩ := by
  cases q <;> simp only [VarQuery.node] at hw
  case subtree i => simp [VarQuery.ask, VarQuery.reply, Traced.exceptBind_run_of_ok hw]
  case whole => simp [VarQuery.ask, VarQuery.reply, variablesIn, Traced.exceptBind_run_of_ok hw]
  case constancy =>
    have hc : (t.isConstantIn m).run = ⟨.ok (s.vars.isEmpty, m'), rs⟩ := by
      simp [isConstantIn, variablesIn, Traced.exceptBind_run_of_ok hw]
    simp [VarQuery.ask, VarQuery.reply, Traced.exceptBind_run_of_ok hc]

theorem ask_spec (hm : m.Valid t) (q : VarQuery) (hq : q.node < t.size) :
    ∃ r m', (q.ask t m).run =
        ⟨.ok (r, m'), ((t.subtreeNodes q.node).filter (m.stopsAt t.layout q.node)).map Memo.hitRecord⟩ ∧
      q.Answers t r ∧ m'.Valid t ∧ ∀ j, m'.has j = true ↔ m.has j = true ∨ j ∈ t.subtreeNodes q.node := by
  have hlen : q.node < t.bfs.length := by rwa [length_bfs]
  have hs : t.bfs[q.node]? = some t.bfs[q.node] := List.getElem?_eq_getElem hlen
  obtain ⟨m', hrun, hm', hhas⟩ := variablesOf_walked hm hs
  rw [subtreeNodes_of_bfs hs]
  exact ⟨_, m', ask_run hrun, answers_of_bfs hs, hm', hhas⟩

theorem foldlM_ask (qs : List VarQuery) (hqs : ∀ q ∈ qs, q.node < t.size) (hm : m.Valid t) :
    ∃ M, qs.foldlM (fun m q => (q.ask t m).run.value.map Prod.snd) m = .ok M ∧ M.Valid t ∧
      ∀ j, M.has j = true ↔ m.has j = true ∨ ∃ q ∈ qs, j ∈ t.subtreeNodes q.node := by
  induction qs generalizing m with
  | nil => exact ⟨m, rfl, hm, by simp⟩
  | cons q qs ih =>
    obtain ⟨r, m', hrun, -, hm', hhas⟩ := ask_spec hm q (hqs q List.mem_cons_self)
    obtain ⟨M, hM, hvalid, hhas'⟩ := ih (fun q' h => hqs q' (List.mem_cons_of_mem q h)) hm'
    refine ⟨M, ?_, hvalid, fun j => ?_⟩
    · simp only [List.foldlM_cons, hrun]
      exact hM
    · rw [hhas', hhas]
      simp only [List.mem_cons, exists_eq_or_imp]
      tauto

theorem memoAfter_spec (qs : List VarQuery) (hqs : ∀ q ∈ qs, q.node < t.size) :
    ∃ M, t.memoAfter qs = .ok M ∧ M.Valid t ∧ ∀ j, M.has j = true ↔ ∃ q ∈ qs, j ∈ t.subtreeNodes q.node := by
  obtain ⟨M, hM, hvalid, hhas⟩ := foldlM_ask qs hqs (Memo.valid_empty t)
  refine ⟨M, hM, hvalid, fun j => ?_⟩
  rw [hhas]
  simp [Memo.has, Memo.slot]

theorem slot_eq_some_iff_of_valid (hm : m.Valid t) {j : Nat} {vs : VarSet} :
    m.slot j = some vs ↔ m.has j = true ∧ (VarQuery.subtree j).Answers t (.vars vs) := by
  constructor
  · intro h
    obtain ⟨s, hs, rfl⟩ := hm.sound j vs h
    exact ⟨by simp [Memo.has, h], answers_of_bfs (q := .subtree j) hs⟩
  · rintro ⟨hj, hans⟩
    obtain ⟨vs', hvs'⟩ := Option.isSome_iff_exists.mp hj
    obtain ⟨s, hs, rfl⟩ := hm.sound j vs' hvs'
    have hans' : (VarQuery.subtree j).Answers t (.vars s.vars) := answers_of_bfs (q := .subtree j) hs
    rw [hvs', VarSet.Increasing.eq_of_mem_iff hans'.1 hans.1 fun x => (hans'.2 x).trans (hans.2 x).symm]

end Queries

/-- The variable-set memo is right under any history of queries at nodes of the formula: the
history runs without failing; the filled slots are exactly those of the nodes of the subtrees
asked about, each holding the variables of its subtree; and a further query replies with the
variables of the variable nodes of the subtree it asks about (for constancy, whether there are
none), leaving a trace that names, in pre-order, the filled nodes of that subtree that are its
root or whose parent is not filled. -/
theorem variables_memo_history (t : Formula) (hist : List VarQuery) (hhist : ∀ q ∈ hist, q.node < t.size) :
    ∃ M, t.memoAfter hist = .ok M ∧
      (∀ j vs, M.slot j = some vs ↔
        (∃ q ∈ hist, j ∈ t.subtreeNodes q.node) ∧ (VarQuery.subtree j).Answers t (.vars vs)) ∧
      ∀ q : VarQuery, q.node < t.size → ∃ r M',
        (q.ask t M).run =
          ⟨.ok (r, M'), ((t.subtreeNodes q.node).filter (M.stopsAt t.layout q.node)).map Memo.hitRecord⟩ ∧
        q.Answers t r := by
  obtain ⟨M, hM, hvalid, hhas⟩ := memoAfter_spec hist hhist
  refine ⟨M, hM, fun j vs => by rw [slot_eq_some_iff_of_valid hvalid, hhas], fun q hq => ?_⟩
  obtain ⟨r, M', hrun, hans, -⟩ := ask_spec hvalid q hq
  exact ⟨r, M', hrun, hans⟩

theorem variables_memo_history_after_subtree :
    (∀ q ∈ [VarQuery.subtree 2, VarQuery.whole], q.node <
      (bin .or (bin .and (var ⟨'a', rfl⟩) (var ⟨'b', rfl⟩))
        (neg (bin .and (var ⟨'a', rfl⟩) (var ⟨'b', rfl⟩)))).size) ∧
    let t := bin .or (bin .and (var ⟨'a', rfl⟩) (var ⟨'b', rfl⟩))
      (neg (bin .and (var ⟨'a', rfl⟩) (var ⟨'b', rfl⟩)))
    ∃ M, t.memoAfter [.subtree 2, .whole] = .ok M ∧
      (∀ j vs, M.slot j = some vs ↔
        (∃ q ∈ [VarQuery.subtree 2, VarQuery.whole], j ∈ t.subtreeNodes q.node) ∧
          (VarQuery.subtree j).Answers t (.vars vs)) ∧
      ∀ q : VarQuery, q.node < t.size → ∃ r M',
        (q.ask t M).run =
          ⟨.ok (r, M'), ((t.subtreeNodes q.node).filter (M.stopsAt t.layout q.node)).map Memo.hitRecord⟩ ∧
        q.Answers t r :=
  ⟨by decide, variables_memo_history _ [.subtree 2, .whole] (by decide)⟩

end Formula

end PropCalc
