import Mathlib
import PropCalc.Formula.Layout
import PropCalc.Proofs.Semantics

namespace PropCalc

namespace Formula

/-! ### The breadth-first walk -/

/-- Breadth-first listing of a queue of formulas: the head is listed and its children join the
back of the queue. -/
def levelOrder : List Formula → List Formula
  | [] => []
  | t :: q => t :: levelOrder (q ++ t.children)
termination_by q => sizes q
decreasing_by
  have h := size_eq_children t
  have e := sizes_append q t.children
  show sizes (q ++ t.children) < t.size + sizes q
  omega

/-- The subformulas of `t` in breadth-first order; position `i` holds the subtree of node `i`. -/
def bfs (t : Formula) : List Formula := levelOrder [t]

/-- The node of `t` when its children are numbered from `next`. -/
def nodeFrom (t : Formula) (next : Nat) : Node :=
  match t with
  | const b => .const b
  | var v => .var v
  | neg _ => .neg next
  | bin op _ _ => .bin op next (next + 1)

/-- The nodes of a breadth-first listing with the children numbered in order from `next`. -/
def numberFrom : List Formula → Nat → List Node
  | [], _ => []
  | t :: ts, next => t.nodeFrom next :: numberFrom ts (next + t.arity)

theorem levelOrder_nil : levelOrder [] = [] := by
  rw [levelOrder]

theorem levelOrder_cons (t : Formula) (q : List Formula) :
    levelOrder (t :: q) = t :: levelOrder (q ++ t.children) := by
  rw [levelOrder]

theorem levelOrder_eq (q : List Formula) : levelOrder q = q ++ (levelOrder q).flatMap children := by
  induction q using levelOrder.induct with
  | case1 => simp [levelOrder_nil]
  | case2 t q ih =>
    conv_lhs => rw [levelOrder_cons, ih]
    simp [levelOrder_cons]

theorem length_levelOrder (q : List Formula) : (levelOrder q).length = sizes q := by
  induction q using levelOrder.induct with
  | case1 => simp [levelOrder_nil, sizes]
  | case2 t q ih =>
    have ht := size_eq_children t
    rw [levelOrder_cons, List.length_cons, ih, sizes_append, sizes]
    omega

theorem forall_mem_levelOrder {P : Formula → Prop} (hP : ∀ s, P s → ∀ a ∈ s.children, P a) :
    ∀ q : List Formula, (∀ s ∈ q, P s) → ∀ s ∈ levelOrder q, P s := by
  intro q
  induction q using levelOrder.induct with
  | case1 => simp [levelOrder_nil]
  | case2 t q ih =>
    intro hq s hs
    rw [levelOrder_cons, List.mem_cons] at hs
    rcases hs with rfl | hs
    · exact hq s (List.mem_cons_self ..)
    · refine ih (fun u hu => ?_) s hs
      rcases List.mem_append.mp hu with hu | hu
      · exact hq u (List.mem_cons_of_mem t hu)
      · exact hP t (hq t (List.mem_cons_self ..)) u hu

theorem lt_length_add_arities (q : List Formula) :
    ∀ i < (levelOrder q).length, i < q.length + (((levelOrder q).take i).map arity).sum := by
  induction q using levelOrder.induct with
  | case1 => simp [levelOrder_nil]
  | case2 t q ih =>
    intro i hi
    rw [levelOrder_cons] at hi ⊢
    cases i with
    | zero => simp
    | succ i =>
      have h := ih i (by simpa using hi)
      have ha := arity_eq_length_children t
      simp only [List.take_succ_cons, List.map_cons, List.sum_cons, List.length_cons,
        List.length_append] at h ⊢
      omega

theorem bfs_eq (t : Formula) : t.bfs = t :: t.bfs.flatMap children := levelOrder_eq [t]

theorem getElem?_bfs_zero (t : Formula) : t.bfs[0]? = some t := by
  rw [bfs_eq]
  rfl

theorem length_bfs (t : Formula) : t.bfs.length = t.size := by
  simp [bfs, length_levelOrder, sizes]

theorem sum_arity_bfs (t : Formula) : (t.bfs.map arity).sum + 1 = t.size := by
  have h := congrArg List.length (bfs_eq t)
  have harity : t.bfs.map (fun a => a.children.length) = t.bfs.map arity :=
    List.map_congr_left fun a _ => (arity_eq_length_children a).symm
  rw [List.length_cons, List.length_flatMap, harity, length_bfs] at h
  exact h.symm

/-! ### Numbering the children -/

/-- The number given to the first child of node `i` of `ls`, when the children of the nodes of
`ls` are numbered in order from `next`. -/
def childStart (ls : List Formula) (next i : Nat) : Nat := next + ((ls.take i).map arity).sum

theorem getElem?_numberFrom (ls : List Formula) (next i : Nat) :
    (numberFrom ls next)[i]? = ls[i]?.map fun s => s.nodeFrom (childStart ls next i) := by
  induction ls generalizing next i with
  | nil => simp [numberFrom]
  | cons s ls ih =>
    cases i with
    | zero => simp [numberFrom, childStart]
    | succ i =>
      rw [numberFrom, List.getElem?_cons_succ, ih, List.getElem?_cons_succ]
      simp [childStart, Nat.add_assoc]

@[simp] theorem length_numberFrom (ls : List Formula) (next : Nat) :
    (numberFrom ls next).length = ls.length := by
  induction ls generalizing next with
  | nil => rfl
  | cons s ls ih => simp [numberFrom, ih]

theorem children_nodeFrom (s : Formula) (c : Nat) :
    (s.nodeFrom c).children = List.range' c s.arity := by
  cases s <;> rfl

theorem flatMap_children_numberFrom (ls : List Formula) (next : Nat) :
    (numberFrom ls next).flatMap Shape.children = List.range' next (ls.map arity).sum := by
  induction ls generalizing next with
  | nil => rfl
  | cons s ls ih =>
    rw [numberFrom, List.flatMap_cons, children_nodeFrom, ih, List.map_cons, List.sum_cons,
      List.range'_append_1]

theorem getElem?_flatMap_children {ls : List Formula} {i k : Nat} {s a : Formula}
    (hs : ls[i]? = some s) (ha : s.children[k]? = some a) :
    (ls.flatMap children)[((ls.take i).map arity).sum + k]? = some a := by
  induction ls generalizing i with
  | nil => simp at hs
  | cons u ls ih =>
    have hu := arity_eq_length_children u
    rw [List.flatMap_cons]
    cases i with
    | zero =>
      obtain rfl : u = s := by simpa using hs
      have hk := (List.getElem?_eq_some_iff.mp ha).1
      rw [List.take_zero, List.map_nil, List.sum_nil, Nat.zero_add, List.getElem?_append_left hk, ha]
    | succ i =>
      rw [List.take_succ_cons, List.map_cons, List.sum_cons, List.getElem?_append_right (by omega),
        show u.arity + ((ls.take i).map arity).sum + k - u.children.length =
          ((ls.take i).map arity).sum + k by omega]
      exact ih (by simpa using hs)

/-! ### The expansion loop -/

theorem enqueue_shape_fst (s : Formula) (this : Nat) (q : List (Formula × Option Nat)) :
    (s.shape.enqueue this q).1 = s.nodeFrom (this + q.length + 1) := by
  cases s <;> simp [shape, Shape.enqueue, nodeFrom, Nat.add_assoc]

theorem map_snd_enqueue_shape (s : Formula) (this : Nat) (q : List (Formula × Option Nat)) :
    (s.shape.enqueue this q).2.map Prod.snd = q.map Prod.snd ++ List.replicate s.arity (some this) := by
  cases s <;> simp [shape, Shape.enqueue, arity]

theorem length_enqueue_shape (s : Formula) (this : Nat) (q : List (Formula × Option Nat)) :
    (s.shape.enqueue this q).2.length = q.length + s.arity := by
  rw [← List.length_map (f := Prod.snd), map_snd_enqueue_shape]
  simp

/-- The parents of the children of a listing whose first member has index `start`: each member,
in order, as often as it has children. -/
def childParents (ls : List Formula) (start : Nat) : List (Option Nat) :=
  (ls.zipIdx start).flatMap fun p => List.replicate p.1.arity (some p.2)

theorem childParents_cons (s : Formula) (ls : List Formula) (start : Nat) :
    childParents (s :: ls) start = List.replicate s.arity (some start) ++ childParents ls (start + 1) := by
  simp [childParents, List.zipIdx_cons]

theorem expandFrom_eq (q : List (Formula × Option Nat)) (L : Layout) :
    expandFrom q L =
      ⟨L.nodes ++ numberFrom (levelOrder (q.map Prod.fst)) (L.nodes.length + q.length),
        L.parents ++ q.map Prod.snd ++ childParents (levelOrder (q.map Prod.fst)) L.nodes.length⟩ := by
  induction q, L using expandFrom.induct with
  | case1 L => simp [expandFrom, levelOrder_nil, numberFrom, childParents]
  | case2 L s parent q step ih =>
    -- one dequeue: the node at `L.nodes.length` numbers its children past the frontier behind it
    rw [expandFrom, ih, map_fst_enqueue_shape, map_snd_enqueue_shape, length_enqueue_shape,
      enqueue_shape_fst, List.map_cons, levelOrder_cons, numberFrom, childParents_cons]
    simp only [List.length_append, List.map_cons, List.length_cons, List.length_nil, Nat.zero_add,
      List.append_assoc, List.cons_append, List.nil_append]
    rw [show L.nodes.length + q.length + 1 = L.nodes.length + (q.length + 1) by omega,
      show L.nodes.length + 1 + (q.length + s.arity) = L.nodes.length + (q.length + 1) + s.arity by omega]

theorem layout_nodes (t : Formula) : t.layout.nodes = numberFrom t.bfs 1 := by
  rw [layout, expandFrom_eq]
  rfl

theorem layout_parents (t : Formula) : t.layout.parents = none :: childParents t.bfs 0 := by
  rw [layout, expandFrom_eq]
  rfl

section Walk

variable (t : Formula)

theorem getElem?_bfs_child {i k : Nat} {s a : Formula} (hs : t.bfs[i]? = some s)
    (ha : s.children[k]? = some a) : t.bfs[childStart t.bfs 1 i + k]? = some a := by
  have h := getElem?_flatMap_children hs ha
  calc t.bfs[childStart t.bfs 1 i + k]?
      = (t :: t.bfs.flatMap children)[((t.bfs.take i).map arity).sum + k + 1]? := by
        rw [← bfs_eq, childStart]
        congr 1
        omega
    _ = some a := by rw [List.getElem?_cons_succ, h]

theorem lt_childStart {i : Nat} {s : Formula} (hs : t.bfs[i]? = some s) : i < childStart t.bfs 1 i := by
  have hi : i < t.bfs.length := (List.getElem?_eq_some_iff.mp hs).1
  exact lt_length_add_arities [t] i hi

theorem getElem?_layout_nodes (i : Nat) :
    t.layout.nodes[i]? = t.bfs[i]?.map fun s => s.nodeFrom (childStart t.bfs 1 i) := by
  rw [layout_nodes, getElem?_numberFrom]

@[simp] theorem size_layout : t.layout.size = t.size := by
  simp [layout_nodes, Layout.size, length_bfs]

theorem flatMap_children_layout :
    t.layout.nodes.flatMap Shape.children = List.range' 1 (t.size - 1) := by
  have h := sum_arity_bfs t
  rw [layout_nodes, flatMap_children_numberFrom, show (t.bfs.map arity).sum = t.size - 1 by omega]

theorem exists_var_node {x : Var} :
    ∀ {s : Formula} {k : Nat}, t.bfs[k]? = some s → x ∈ s.vars → ∃ j, k ≤ j ∧ t.bfs[j]? = some (var x)
  | const _, _, _, hx => absurd hx not_mem_vars_const
  | var y, k, hs, hx => ⟨k, le_rfl, by rw [hs, mem_vars_var.mp hx]⟩
  | neg a, k, hs, hx => by
    have hk := lt_childStart t hs
    obtain ⟨j, hj, hvar⟩ := exists_var_node (getElem?_bfs_child t hs (k := 0) rfl) (mem_vars_neg.mp hx)
    exact ⟨j, by omega, hvar⟩
  | bin _ a b, k, hs, hx => by
    have hk := lt_childStart t hs
    rcases mem_vars_bin.mp hx with hx | hx
    · obtain ⟨j, hj, hvar⟩ := exists_var_node (getElem?_bfs_child t hs (k := 0) rfl) hx
      exact ⟨j, by omega, hvar⟩
    · obtain ⟨j, hj, hvar⟩ := exists_var_node (getElem?_bfs_child t hs (k := 1) rfl) hx
      exact ⟨j, by omega, hvar⟩

end Walk

theorem nodeFrom_eq_var_iff {s : Formula} {c : Nat} {x : Var} : s.nodeFrom c = .var x ↔ s = var x := by
  cases s <;> simp [nodeFrom]

theorem getElem?_layout_nodes_eq_var_iff {t : Formula} {i : Nat} {x : Var} :
    t.layout.nodes[i]? = some (.var x) ↔ t.bfs[i]? = some (var x) := by
  rw [getElem?_layout_nodes]
  cases t.bfs[i]? with
  | none => simp
  | some s => simp [nodeFrom_eq_var_iff]

end Formula

/-! ### Parents -/

namespace Layout

/-- Each child index of a layout with the index of the node that lists it, in order. -/
def edges (L : Layout) : List (Nat × Nat) :=
  L.nodes.zipIdx.flatMap fun p => p.1.children.map fun c => (c, p.2)

theorem mem_edges {L : Layout} {c p : Nat} :
    (c, p) ∈ L.edges ↔ ∃ n, L.nodes[p]? = some n ∧ c ∈ n.children := by
  simp only [edges, List.mem_flatMap, List.mem_map, Prod.mk.injEq, List.mem_zipIdx_iff_getElem?]
  constructor
  · rintro ⟨⟨n, p'⟩, hn, c', hc, rfl, rfl⟩
    exact ⟨n, hn, hc⟩
  · rintro ⟨n, hn, hc⟩
    exact ⟨(n, p), hn, c, hc, rfl, rfl⟩

end Layout

namespace Formula

theorem map_fst_flatMap_zipIdx (ns : List Node) (s : Nat) :
    ((ns.zipIdx s).flatMap fun p => p.1.children.map fun c => (c, p.2)).map Prod.fst =
      ns.flatMap Shape.children := by
  induction ns generalizing s with
  | nil => rfl
  | cons n ns ih => simp [List.zipIdx_cons, ih, Function.comp_def]

theorem childParents_eq_edges (ls : List Formula) (next s : Nat) :
    childParents ls s =
      (((numberFrom ls next).zipIdx s).flatMap fun p => p.1.children.map fun c => (c, p.2)).map
        fun e => some e.2 := by
  induction ls generalizing next s with
  | nil => rfl
  | cons u ls ih =>
    rw [childParents_cons, numberFrom, List.zipIdx_cons, List.flatMap_cons, List.map_append,
      ← ih (next + u.arity), children_nodeFrom]
    simp [Function.comp_def, List.map_const']

section Parents

variable (t : Formula)

theorem map_fst_edges : t.layout.edges.map Prod.fst = List.range' 1 (t.size - 1) := by
  rw [Layout.edges, map_fst_flatMap_zipIdx, flatMap_children_layout]

theorem parents_eq_edges : t.layout.parents = none :: t.layout.edges.map fun e => some e.2 := by
  rw [layout_parents, Layout.edges, layout_nodes, childParents_eq_edges t.bfs 1 0]

theorem fst_of_getElem?_edges {j : Nat} {e : Nat × Nat} (h : t.layout.edges[j]? = some e) :
    e.1 = j + 1 := by
  have hj : j < t.layout.edges.length := (List.getElem?_eq_some_iff.mp h).1
  have hedges : t.layout.edges.length = t.size - 1 := by
    simpa using congrArg List.length (map_fst_edges t)
  have hlen : j < t.size - 1 := by omega
  have hfst := congrArg (·[j]?) (map_fst_edges t)
  simp only [List.getElem?_map, h, Option.map_some, List.getElem?_range' hlen] at hfst
  simpa [Nat.add_comm] using hfst

theorem parents_getElem?_eq_some_iff (c p : Nat) :
    t.layout.parents[c]? = some (some p) ↔ ∃ n, t.layout.nodes[p]? = some n ∧ c ∈ n.children := by
  rw [← Layout.mem_edges, parents_eq_edges]
  cases c with
  | zero =>
    simp only [List.getElem?_cons_zero, Option.some.injEq, reduceCtorEq, false_iff]
    intro hmem
    have h0 : 0 ∈ t.layout.edges.map Prod.fst := List.mem_map_of_mem hmem
    rw [map_fst_edges] at h0
    simp at h0
  | succ c =>
    rw [List.getElem?_cons_succ, List.getElem?_map]
    constructor
    · intro h
      obtain ⟨e, he, hp⟩ := Option.map_eq_some_iff.mp h
      have hfst := fst_of_getElem?_edges t he
      obtain ⟨c', p'⟩ := e
      simp only [Option.some.injEq] at hp hfst
      subst hp hfst
      exact List.mem_of_getElem? he
    · intro hmem
      obtain ⟨j, hj⟩ := List.mem_iff_getElem?.mp hmem
      have hfst := fst_of_getElem?_edges t hj
      obtain rfl : j = c := by simp at hfst; omega
      simp [hj]

theorem lt_of_mem_children {p c : Nat} {n : Node} (hn : t.layout.nodes[p]? = some n)
    (hc : c ∈ n.children) : p < c := by
  rw [getElem?_layout_nodes] at hn
  obtain ⟨s, hs, rfl⟩ := Option.map_eq_some_iff.mp hn
  rw [children_nodeFrom, List.mem_range'_1] at hc
  have := lt_childStart t hs
  omega

theorem length_parents : t.layout.parents.length = t.size := by
  rw [parents_eq_edges, List.length_cons, List.length_map, ← List.length_map (f := Prod.fst),
    map_fst_edges, List.length_range']
  have := size_pos t
  omega

end Parents

end Formula

namespace Layout

/-- The parent of a node, by the parent table. -/
def parentOf (L : Layout) (j : Nat) : Option Nat := L.parents[j]?.join

end Layout

namespace Formula

section Parents

variable {t : Formula}

theorem getElem?_layout_nodes_of_bfs {i : Nat} {s : Formula} (hs : t.bfs[i]? = some s) :
    t.layout.nodes[i]? = some (s.nodeFrom (childStart t.bfs 1 i)) := by
  rw [getElem?_layout_nodes, hs]
  rfl

theorem mem_children_nodeFrom {s a : Formula} {k : Nat} (c : Nat) (ha : s.children[k]? = some a) :
    c + k ∈ (s.nodeFrom c).children := by
  have hk : k < s.arity := by
    rw [arity_eq_length_children]
    exact (List.getElem?_eq_some_iff.mp ha).1
  rw [children_nodeFrom, List.mem_range'_1]
  omega

theorem parentOf_eq_some_iff {c p : Nat} :
    t.layout.parentOf c = some p ↔ ∃ n, t.layout.nodes[p]? = some n ∧ c ∈ n.children := by
  rw [Layout.parentOf, Option.join_eq_some_iff, parents_getElem?_eq_some_iff]

theorem parentOf_child {i k : Nat} {s a : Formula} (hs : t.bfs[i]? = some s)
    (ha : s.children[k]? = some a) : t.layout.parentOf (childStart t.bfs 1 i + k) = some i :=
  parentOf_eq_some_iff.mpr ⟨_, getElem?_layout_nodes_of_bfs hs, mem_children_nodeFrom _ ha⟩

theorem parentOf_eq_iff_childStart {i j : Nat} {s : Formula} (hs : t.bfs[i]? = some s) :
    t.layout.parentOf j = some i ↔ childStart t.bfs 1 i ≤ j ∧ j < childStart t.bfs 1 i + s.arity := by
  rw [parentOf_eq_some_iff, getElem?_layout_nodes_of_bfs hs]
  simp [children_nodeFrom, List.mem_range'_1]

theorem lt_of_parentOf {j p : Nat} (h : t.layout.parentOf j = some p) : p < j := by
  obtain ⟨n, hn, hc⟩ := parentOf_eq_some_iff.mp h
  exact lt_of_mem_children t hn hc

theorem parentOf_zero : t.layout.parentOf 0 = none := by
  rw [Layout.parentOf, layout_parents]
  rfl

end Parents

/-! ### Folding the layout -/

/-- The structural fold of a formula by a step that may fail: the children are folded first, left
before right, then the node itself. -/
def tryFold {ε R : Type} (f : Shape R → Except ε R) : Formula → Except ε R
  | const b => f (.const b)
  | var v => f (.var v)
  | neg a => do f (.neg (← a.tryFold f))
  | bin op a b => do f (.bin op (← a.tryFold f) (← b.tryFold f))

section Slots

variable {R : Type}

theorem takeResult_of_join {rs : Array (Option R)} {j : Nat} {r : R} (h : rs[j]?.join = some r) :
    Layout.takeResult rs j = some (r, rs.setIfInBounds j none) := by
  have hj : rs[j]? = some (some r) := Option.join_eq_some_iff.mp h
  unfold Layout.takeResult
  rw [hj]

@[simp] theorem join_getElem?_setIfInBounds_none (rs : Array (Option R)) (i j : Nat) :
    (rs.setIfInBounds i none)[j]?.join = if i = j then none else rs[j]?.join := by
  rw [Array.getElem?_setIfInBounds]
  by_cases hij : i = j
  · subst hij
    by_cases hi : i < rs.size <;> simp [hi]
  · simp [hij]

theorem join_getElem?_setIfInBounds_some (rs : Array (Option R)) {i : Nat} (hi : i < rs.size) (j : Nat)
    (r : R) : (rs.setIfInBounds i (some r))[j]?.join = if i = j then some r else rs[j]?.join := by
  rw [Array.getElem?_setIfInBounds]
  by_cases hij : i = j
  · subst hij
    simp [hi]
  · simp [hij]

@[simp] theorem join_getElem?_replicate_none (n j : Nat) :
    (Array.replicate n (none : Option R))[j]?.join = none := by
  rw [Array.getElem?_replicate]
  split_ifs <;> rfl

end Slots

section Fold

variable {ε R : Type} (f : Shape R → Except ε R)

theorem tryFold_ok_of_mem_children {s a : Formula} (ha : a ∈ s.children)
    (h : ∃ r, s.tryFold f = .ok r) : ∃ r, a.tryFold f = .ok r := by
  cases hfa : a.tryFold f with
  | ok r => exact ⟨r, rfl⟩
  | error e =>
    obtain ⟨r, hr⟩ := h
    cases s with
    | const _ | var _ => simp [children] at ha
    | neg a' =>
      obtain rfl : a = a' := by simpa [children] using ha
      simp [tryFold, hfa, bind, Except.bind] at hr
    | bin op a' b' =>
      rcases (by simpa [children] using ha : a = a' ∨ a = b') with rfl | rfl
      · simp [tryFold, hfa, bind, Except.bind] at hr
      · cases ha' : a'.tryFold f <;> simp [tryFold, ha', hfa, bind, Except.bind] at hr

theorem takeChildren_nodeFrom {s : Formula} {c : Nat} {rs : Array (Option R)}
    (hchild : ∀ k a, s.children[k]? = some a → ∃ r, a.tryFold f = .ok r ∧ rs[c + k]?.join = some r) :
    ∃ sh rs', Layout.takeChildren (s.nodeFrom c) rs = some (sh, rs') ∧ s.tryFold f = f sh ∧
      rs'.size = rs.size ∧ ∀ j, rs'[j]?.join = if c ≤ j ∧ j < c + s.arity then none else rs[j]?.join := by
  cases s with
  | const b => exact ⟨.const b, rs, rfl, rfl, rfl, fun j => by simp [arity]⟩
  | var v => exact ⟨.var v, rs, rfl, rfl, rfl, fun j => by simp [arity]⟩
  | neg a =>
    obtain ⟨x, hx, hc⟩ := hchild 0 a rfl
    refine ⟨.neg x, rs.setIfInBounds c none, ?_, ?_, by simp, fun j => ?_⟩
    · simp only [nodeFrom, Layout.takeChildren]
      rw [takeResult_of_join (by simpa using hc)]
      rfl
    · simp [tryFold, hx, bind, Except.bind]
    · show (rs.setIfInBounds c none)[j]?.join = if c ≤ j ∧ j < c + 1 then none else rs[j]?.join
      rw [join_getElem?_setIfInBounds_none]
      by_cases hj : c = j
      · rw [if_pos hj, if_pos (by omega)]
      · rw [if_neg hj, if_neg (by omega)]
  | bin op a b =>
    obtain ⟨x, hx, hc₀⟩ := hchild 0 a rfl
    obtain ⟨y, hy, hc₁⟩ := hchild 1 b rfl
    -- the right child's slot is untouched by taking the left one
    have hc₁' : (rs.setIfInBounds c none)[c + 1]?.join = some y := by simpa using hc₁
    refine ⟨.bin op x y, (rs.setIfInBounds c none).setIfInBounds (c + 1) none, ?_, ?_, by simp, fun j => ?_⟩
    · have hc₀' : rs[c]?.join = some x := by simpa using hc₀
      simp [nodeFrom, Layout.takeChildren, takeResult_of_join hc₀', takeResult_of_join hc₁']
    · simp [tryFold, hx, hy, bind, Except.bind]
    · show ((rs.setIfInBounds c none).setIfInBounds (c + 1) none)[j]?.join =
        if c ≤ j ∧ j < c + 2 then none else rs[j]?.join
      rw [join_getElem?_setIfInBounds_none, join_getElem?_setIfInBounds_none]
      by_cases h₁ : c + 1 = j
      · rw [if_pos h₁, if_pos (by omega)]
      · by_cases h₀ : c = j
        · rw [if_neg h₁, if_pos h₀, if_pos (by omega)]
        · rw [if_neg h₁, if_neg h₀, if_neg (by omega)]

theorem collapseFrom_cons_of_error {n : Node} {i : Nat} {rest : List (Node × Nat)}
    {rs₀ : Array (Option R)} {e : ε} (h : Layout.collapseFrom f rest rs₀ = .error e) :
    Layout.collapseFrom f ((n, i) :: rest) rs₀ = .error e := by
  rw [Layout.collapseFrom, h]

theorem collapseFrom_cons_of_take {n : Node} {i : Nat} {rest : List (Node × Nat)}
    {rs₀ rs rs' : Array (Option R)} {sh : Shape R} (h : Layout.collapseFrom f rest rs₀ = .ok (some rs))
    (ht : Layout.takeChildren n rs = some (sh, rs')) :
    Layout.collapseFrom f ((n, i) :: rest) rs₀ = (f sh).map fun r => some (rs'.setIfInBounds i (some r)) := by
  rw [Layout.collapseFrom, h]
  simp only [ht]

variable (t : Formula)

/-- The fold of the subtree at node `j`, when it succeeds. -/
def foldAt (j : Nat) : Option R := t.bfs[j]?.bind fun s => (s.tryFold f).toOption

/-- Whether node `j` holds its result once the nodes from `i` on are folded: it is one of them,
and its parent is not. -/
def waiting (i j : Nat) : Bool := decide (i ≤ j) && (t.layout.parentOf j).all fun p => decide (p < i)

/-- The result slots once the nodes from `i` on are folded: the waiting nodes hold their
results, and every other slot is empty. -/
def SlotsFrom (i : Nat) (rs : Array (Option R)) : Prop :=
  rs.size = t.size ∧ ∀ j, rs[j]?.join = if t.waiting i j then foldAt f t j else none

theorem foldAt_eq_none {j : Nat} (hj : t.size ≤ j) : foldAt f t j = none := by
  rw [foldAt, List.getElem?_eq_none (by rw [length_bfs]; omega)]
  rfl

theorem slotsFrom_of_size_le {i : Nat} (hi : t.size ≤ i) :
    SlotsFrom f t i (Array.replicate t.size none) := by
  refine ⟨by simp, fun j => ?_⟩
  by_cases hj : t.size ≤ j
  · simp [foldAt_eq_none f t hj]
  · simp [waiting, show ¬ i ≤ j by omega]

theorem slotsFrom_step {i : Nat} {s : Formula} (hs : t.bfs[i]? = some s) {r : R}
    (hr : s.tryFold f = .ok r) {rs rs' : Array (Option R)} (hrs : SlotsFrom f t (i + 1) rs)
    (hsize : rs'.size = rs.size)
    (hrs' : ∀ j, rs'[j]?.join =
      if childStart t.bfs 1 i ≤ j ∧ j < childStart t.bfs 1 i + s.arity then none else rs[j]?.join) :
    SlotsFrom f t i (rs'.setIfInBounds i (some r)) := by
  have hi : i < t.size := by rw [← length_bfs]; exact (List.getElem?_eq_some_iff.mp hs).1
  have hfold : foldAt f t i = some r := by simp [foldAt, hs, hr, Except.toOption]
  have hi' : i < rs'.size := by rw [hsize, hrs.1]; exact hi
  refine ⟨by simp [hsize, hrs.1], fun j => ?_⟩
  rw [join_getElem?_setIfInBounds_some rs' hi', hrs', hrs.2]
  have hchild := parentOf_eq_iff_childStart (t := t) (j := j) hs
  by_cases hji : i = j
  · -- node `i` itself: its parent comes before it
    subst hji
    have hwait : t.waiting i i = true := by
      cases hp : t.layout.parentOf i with
      | none => simp [waiting, hp]
      | some p => simp [waiting, hp, lt_of_parentOf hp]
    rw [if_pos rfl, hwait, if_pos rfl, hfold]
  rw [if_neg hji]
  by_cases hc : childStart t.bfs 1 i ≤ j ∧ j < childStart t.bfs 1 i + s.arity
  · -- a child of `i` has been taken
    have hw : t.waiting i j = false := by simp [waiting, hchild.mpr hc]
    rw [if_pos hc, hw]
    rfl
  · -- any other node waits from `i` on exactly when it waited after `i`
    have hp : t.layout.parentOf j ≠ some i := fun h => hc (hchild.mp h)
    have hw : t.waiting i j = t.waiting (i + 1) j := by
      cases hq : t.layout.parentOf j with
      | none =>
        simp only [waiting, hq, Option.all_none, Bool.and_true, decide_eq_decide]
        omega
      | some p =>
        have hpi : p ≠ i := fun e => hp (by rw [hq, e])
        rw [Bool.eq_iff_iff]
        simp only [waiting, hq, Option.all_some, Bool.and_eq_true, decide_eq_true_eq]
        omega
    rw [if_neg hc, hw]

theorem drop_layout_nodes {i : Nat} (hi : i < t.bfs.length) :
    (t.layout.nodes.drop i).zipIdx i =
      (t.bfs[i].nodeFrom (childStart t.bfs 1 i), i) :: (t.layout.nodes.drop (i + 1)).zipIdx (i + 1) := by
  have hlen : i < t.layout.nodes.length := by simpa [layout_nodes] using hi
  have hnode : t.layout.nodes[i] = t.bfs[i].nodeFrom (childStart t.bfs 1 i) := by
    have h := getElem?_layout_nodes t i
    rw [List.getElem?_eq_getElem hlen, List.getElem?_eq_getElem hi] at h
    simpa using h
  rw [List.drop_eq_getElem_cons hlen, List.zipIdx_cons, hnode]

theorem collapseFrom_step {i : Nat} {s : Formula} (hs : t.bfs[i]? = some s)
    (hlater : ∀ j s', i < j → t.bfs[j]? = some s' → ∃ r, s'.tryFold f = .ok r)
    {rs : Array (Option R)} (hrs : SlotsFrom f t (i + 1) rs)
    (ih : Layout.collapseFrom f ((t.layout.nodes.drop (i + 1)).zipIdx (i + 1)) (Array.replicate t.size none) =
      .ok (some rs)) :
    ∃ rs' : Array (Option R),
      Layout.collapseFrom f ((t.layout.nodes.drop i).zipIdx i) (Array.replicate t.size none) =
      (s.tryFold f).map (fun r => some (rs'.setIfInBounds i (some r))) ∧
      ∀ r, s.tryFold f = .ok r → SlotsFrom f t i (rs'.setIfInBounds i (some r)) := by
  have hi : i < t.bfs.length := (List.getElem?_eq_some_iff.mp hs).1
  have hsi : t.bfs[i] = s := by simpa [List.getElem?_eq_getElem hi] using hs
  -- each child stands after `i` with no parent but `i`, so its result waits in its slot
  have hchild : ∀ k a, s.children[k]? = some a →
      ∃ r, a.tryFold f = .ok r ∧ rs[childStart t.bfs 1 i + k]?.join = some r := by
    intro k a ha
    have hsa := getElem?_bfs_child t hs ha
    have hlt := lt_childStart t hs
    obtain ⟨r, hr⟩ := hlater _ a (by omega) hsa
    have hwait : t.waiting (i + 1) (childStart t.bfs 1 i + k) = true := by
      simp [waiting, parentOf_child hs ha]
      omega
    refine ⟨r, hr, ?_⟩
    rw [hrs.2, hwait, if_pos rfl, foldAt, hsa]
    simp [hr, Except.toOption]
  obtain ⟨sh, rs', htake, hfold, hsize, hrs'⟩ := takeChildren_nodeFrom f hchild
  refine ⟨rs', ?_, fun r hr => slotsFrom_step f t hs hr hrs hsize hrs'⟩
  rw [drop_layout_nodes t hi, hsi, collapseFrom_cons_of_take f ih htake, hfold]

theorem collapseFrom_of_ok (i : Nat)
    (hok : ∀ j s, i ≤ j → t.bfs[j]? = some s → ∃ r, s.tryFold f = .ok r) :
    ∃ rs, Layout.collapseFrom f ((t.layout.nodes.drop i).zipIdx i) (Array.replicate t.size none) =
      .ok (some rs) ∧ SlotsFrom f t i rs := by
  by_cases hi : i < t.bfs.length
  · have hs : t.bfs[i]? = some t.bfs[i] := List.getElem?_eq_getElem hi
    obtain ⟨r, hr⟩ := hok i _ le_rfl hs
    obtain ⟨rs, hcol, hrs⟩ := collapseFrom_of_ok (i + 1) fun j s hj => hok j s (by omega)
    obtain ⟨rs', hstep, hslots⟩ := collapseFrom_step f t hs (fun j s hj => hok j s (by omega)) hrs hcol
    exact ⟨_, by rw [hstep, hr]; rfl, hslots r hr⟩
  · have hnodes : t.layout.nodes.drop i = [] := List.drop_eq_nil_of_le (by simpa [layout_nodes] using hi)
    exact ⟨_, by rw [hnodes]; rfl, slotsFrom_of_size_le f t (by rw [← length_bfs]; omega)⟩
termination_by t.bfs.length - i

theorem slotsFrom_zero_getElem? {rs : Array (Option R)} (h : SlotsFrom f t 0 rs) (j : Nat) :
    rs[j]?.join = if j = 0 then (t.tryFold f).toOption else none := by
  rw [h.2]
  by_cases hj : j = 0
  · subst hj
    simp [waiting, parentOf_zero, foldAt, getElem?_bfs_zero]
  · by_cases hsz : t.size ≤ j
    · simp [foldAt_eq_none f t hsz, hj]
    · obtain ⟨p, hp⟩ : ∃ p, t.layout.parentOf j = some p := by
        cases hp : t.layout.parentOf j with
        | some p => exact ⟨p, rfl⟩
        | none =>
          -- every node past the root is a child
          have hmem : j ∈ t.layout.nodes.flatMap Shape.children := by
            rw [flatMap_children_layout, List.mem_range'_1]
            omega
          obtain ⟨n, hn, hc⟩ := List.mem_flatMap.mp hmem
          obtain ⟨p, hnp⟩ := List.mem_iff_getElem?.mp hn
          rw [parentOf_eq_some_iff.mpr ⟨n, hnp, hc⟩] at hp
          cases hp
      simp [waiting, hp, hj]

theorem tryCollapse_of_tryFold {r : R} (h : t.tryFold f = .ok r) :
    t.layout.tryCollapse f = .ok (some r) := by
  have hall : ∀ s ∈ t.bfs, ∃ r, s.tryFold f = .ok r :=
    forall_mem_levelOrder (P := fun s => ∃ r, s.tryFold f = .ok r)
      (fun s hs a ha => tryFold_ok_of_mem_children f ha hs) [t] (by simp [h])
  obtain ⟨rs, hcol, hrs⟩ := collapseFrom_of_ok f t 0 fun j s _ hs => hall s (List.mem_of_getElem? hs)
  have hroot := slotsFrom_zero_getElem? f t hrs 0
  rw [List.drop_zero] at hcol
  rw [Layout.tryCollapse, show t.layout.nodes.length = t.size by simpa [Layout.size] using size_layout t,
    hcol]
  simp [hroot, h, Except.map, Except.toOption]

theorem tryCollapse_of_error {k : Nat} {s : Formula} {e : ε} (hs : t.bfs[k]? = some s)
    (he : s.tryFold f = .error e)
    (hlater : ∀ j s', k < j → t.bfs[j]? = some s' → ∃ r, s'.tryFold f = .ok r) :
    t.layout.tryCollapse f = .error e := by
  have hk : k < t.bfs.length := (List.getElem?_eq_some_iff.mp hs).1
  -- the node at `k` fails on the results of the nodes after it
  have hat : Layout.collapseFrom f ((t.layout.nodes.drop k).zipIdx k) (Array.replicate t.size none) =
      .error e := by
    obtain ⟨rs, hcol, hrs⟩ := collapseFrom_of_ok f t (k + 1) fun j s' hj => hlater j s' (by omega)
    obtain ⟨rs', hstep, -⟩ := collapseFrom_step f t hs hlater hrs hcol
    rw [hstep, he]
    rfl
  -- and every node before it passes the failure on
  have hbefore : ∀ d i, i + d = k →
      Layout.collapseFrom f ((t.layout.nodes.drop i).zipIdx i) (Array.replicate t.size none) = .error e := by
    intro d
    induction d with
    | zero =>
      intro i hi
      obtain rfl : i = k := by omega
      exact hat
    | succ d ih =>
      intro i hi
      rw [drop_layout_nodes t (by omega)]
      exact collapseFrom_cons_of_error f (ih (i + 1) (by omega))
  have h0 := hbefore k 0 (by omega)
  rw [List.drop_zero] at h0
  rw [Layout.tryCollapse, show t.layout.nodes.length = t.size by simpa [Layout.size] using size_layout t, h0]
  rfl

end Fold

theorem tryFold_toFormula (s : Formula) :
    s.tryFold (fun sh => (.ok sh.toFormula : Except Empty Formula)) = .ok s := by
  induction s with
  | const b => rfl
  | var v => rfl
  | neg a ih =>
    rw [tryFold, ih]
    rfl
  | bin op a b iha ihb =>
    rw [tryFold, iha, ihb]
    rfl

/-- The breadth-first layout: it has one node per node of the formula with the root at index 0;
reading the children of the nodes in order lists `1, 2, …, size - 1` once each; a node's parent
is the node that lists it, and children come after their parents; and rebuilding the tree gives
the formula back. -/
theorem layout_breadthFirst (t : Formula) :
    t.layout.size = t.size ∧ t.layout.parents.length = t.size ∧
      t.layout.nodes[0]? = some (t.nodeFrom 1) ∧ t.layout.parents[0]? = some none ∧
      t.layout.nodes.flatMap Shape.children = List.range' 1 (t.size - 1) ∧
      (∀ c p, t.layout.parents[c]? = some (some p) ↔
        ∃ n : Node, t.layout.nodes[p]? = some n ∧ c ∈ n.children) ∧
      (∀ (p c : Nat) (n : Node), t.layout.nodes[p]? = some n → c ∈ n.children → p < c) ∧
      t.layout.toFormula? = some t := by
  have hroot : t.layout.nodes[0]? = some (t.nodeFrom 1) := by
    rw [getElem?_layout_nodes, bfs_eq]
    rfl
  have hparent : t.layout.parents[0]? = some none := by
    rw [layout_parents]
    rfl
  have hrebuild : t.layout.toFormula? = some t := by
    rw [Layout.toFormula?, Layout.collapse?, tryCollapse_of_tryFold _ t (tryFold_toFormula t)]
  exact ⟨size_layout t, length_parents t, hroot, hparent, flatMap_children_layout t,
    parents_getElem?_eq_some_iff t, fun _ _ _ => lt_of_mem_children t, hrebuild⟩

end Formula

end PropCalc
