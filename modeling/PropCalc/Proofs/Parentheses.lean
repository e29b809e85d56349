import Mathlib
import PropCalc.Proofs.RoundTrip
import PropCalc.Proofs.Arena
import PropCalc.Proofs.MaximalMunch
import PropCalc.Proofs.ParseErrors

namespace PropCalc

namespace Lexer

open Grammar

/-! ### Opening parentheses survive lexing -/

theorem IsTableToken.count_open {t : Token Tag} (ht : IsTableToken t) :
    t.lexeme.toList.count '(' = if t = opToken "(" then 1 else 0 := by
  obtain ⟨l, tag⟩ := t
  rcases ht with ⟨htag, hop⟩ | ⟨htag, hl | hl⟩ | ⟨htag, c, hα, -, hl⟩
  · simp only at htag hop
    subst htag
    simp only [operatorLexemes, List.mem_cons, List.not_mem_nil, or_false] at hop
    rcases hop with rfl | rfl | rfl | rfl | rfl | rfl | rfl | rfl | rfl | rfl | rfl | rfl <;>
      simp [opToken]
  · simp only at htag hl
    subst htag hl
    simp [opToken]
  · simp only at htag hl
    subst htag hl
    simp [opToken]
  · simp only at htag hl
    subst htag hl
    have hc : c ≠ '(' := ne_of_isAlpha hα rfl
    simp [opToken, hc]

theorem Munches.count_open {cs : List Char} {ts : List (Token Tag)} (h : Munches cs ts) :
    ts.count (opToken "(") = cs.count '(' := by
  induction h with
  | nil => rfl
  | @blank c cs ts hc _ ih =>
    have hne : c ≠ '(' := by
      rintro rfl
      simp [isBlank] at hc
    rw [List.count_cons, ih]
    simp [hne]
  | @token t cs ts ht _ _ ih =>
    rw [List.count_cons, ih, List.count_append, IsTableToken.count_open ht]
    by_cases heq : t = opToken "(" <;> simp [heq, Nat.add_comm]

theorem count_open_of_lex {s : String} {ts : Tokens} (h : (lex s).value = .ok ts) :
    ts.count (opToken "(") = s.toList.count '(' :=
  (munches_scan h).count_open

end Lexer

namespace Formula

open Grammar Lexer

/-! ### The parentheses a formula needs -/

/-- The pairs of parentheses a formula needs at grammar level `k`: its own pair when its
connective is looser than `k`, and those its operands need at the levels they stand at. -/
def parensAt (k : Nat) : Formula → Nat
  | const _ | var _ => 0
  | neg a => a.parensAt 0
  | bin op a b => (if k < op.tier then 1 else 0) + a.parensAt op.tier + b.parensAt (op.tier - 1)

theorem parensAt_eq (k : Nat) (t : Formula) :
    t.parensAt k = (if k < t.tier then 1 else 0) + t.parensAt 3 := by
  cases t with
  | bin op a b =>
    have h3 : ¬ 3 < op.tier := Nat.not_lt.mpr op.tier_le_three
    by_cases hk : k < op.tier <;> simp [parensAt, tier, h3, hk, Nat.add_assoc]
  | _ => simp [parensAt, tier]

theorem parensAt_succ_le (k : Nat) (t : Formula) : t.parensAt (k + 1) ≤ t.parensAt k := by
  rw [parensAt_eq, parensAt_eq k]
  split_ifs <;> omega

theorem parensAt_le_three_add_one (k : Nat) (t : Formula) : t.parensAt k ≤ t.parensAt 3 + 1 := by
  rw [parensAt_eq]
  split_ifs <;> omega

theorem open_not_mem_spellings (op : Connective) : "(" ∉ op.spellings := by
  cases op <;> simp [Connective.spellings]

theorem parensAt_le_count {k : Nat} {ts : Tokens} {t : Formula} (h : Derives k ts t) :
    t.parensAt k ≤ ts.count (opToken "(") := by
  induction h with
  | neg _ ih => simpa [parensAt, opToken] using ih
  | zero | one | var => simp [parensAt]
  | @group ts e _ ih =>
    -- the group pays for the pair of `e` itself; inside it, `e` stands at the loosest level
    have := parensAt_le_three_add_one 0 e
    simp only [List.cons_append, List.count_cons, List.count_append, beq_self_eq_true,
      if_true]
    have hclose : (opToken ")" == opToken "(") = false := by decide
    simp only [hclose, Bool.false_eq_true, if_false]
    omega
  | lift _ ih => exact (parensAt_succ_le _ _).trans ih
  | @join k ts us a b op s _ hk hs _ iha ihb =>
    have hne : (opToken s == opToken "(") = false := by
      simp only [beq_eq_false_iff_ne, ne_eq, opToken, Token.mk.injEq, and_true]
      rintro rfl
      exact open_not_mem_spellings op hs
    simp only [parensAt, hk, lt_self_iff_false, if_false, Nat.add_sub_cancel, List.count_append,
      List.count_cons, hne, Bool.false_eq_true]
    omega

/-! ### Places and grammar levels -/

theorem wraps_operand_sub {m : Nat} (hm : m ≤ 3) (a : Formula) :
    (Place.operand (4 - m)).wraps a.precedence = decide (m < a.tier) := by
  have h := tier_le_iff hm a
  simp only [Place.wraps, decide_eq_decide]
  omega

theorem parensAt_operand_sub {m : Nat} (hm : m ≤ 3) (a : Formula) :
    (if (Place.operand (4 - m)).wraps a.precedence then 1 else 0) + a.parensAt 3 =
      a.parensAt m := by
  rw [wraps_operand_sub hm, parensAt_eq m]
  by_cases h : m < a.tier <;> simp [h]

theorem parensAt_operand_four (a : Formula) :
    (if (Place.operand 4).wraps a.precedence then 1 else 0) + a.parensAt 3 = a.parensAt 0 :=
  parensAt_operand_sub (Nat.zero_le 3) a

theorem parensAt_operand_precedence (op : Connective) (a : Formula) :
    (if (Place.operand op.precedence).wraps a.precedence then 1 else 0) + a.parensAt 3 =
      a.parensAt op.tier :=
  parensAt_operand_sub op.tier_le_three a

/-- A right operand stands one level tighter than its connective: the right operand of a
connective of precedence `o` is parenthesised as a left operand of precedence `o + 1` would be. -/
theorem parensAt_right_precedence (op : Connective) (b : Formula) :
    (if (Place.right op.precedence).wraps b.precedence then 1 else 0) + b.parensAt 3 =
      b.parensAt (op.tier - 1) := by
  have h1 := op.one_le_tier
  have hw : (Place.right op.precedence).wraps b.precedence =
      (Place.operand (4 - (op.tier - 1))).wraps b.precedence := by
    have := op.tier_le_three
    simp only [Place.wraps, decide_eq_decide]
    simp only [Connective.precedence]
    omega
  rw [hw]
  exact parensAt_operand_sub (by have := op.tier_le_three; omega) b

/-! ### Printing without one node's parentheses -/

/-- The text of the subformula `s` of `t` that is node `j` of its layout and stands at `place`,
printed as `renderAt` prints it except that node `skip` keeps no parentheses. The children of
node `j` are numbered from `childStart t.bfs 1 j`. -/
def renderSkipping (t : Formula) (skip : Nat) : Place → Formula → Nat → String
  | place, s, j =>
    let body := match s with
      | const b => if b then "1" else "0"
      | var v => v.text
      | neg a => "-" ++ renderSkipping t skip (.operand 4) a (childStart t.bfs 1 j)
      | bin op a b =>
        renderSkipping t skip (.operand op.precedence) a (childStart t.bfs 1 j) ++ " " ++
          op.symbol ++ " " ++
          renderSkipping t skip (.right op.precedence) b (childStart t.bfs 1 j + 1)
    if place.wraps s.precedence && j != skip then "(" ++ body ++ ")" else body

/-- The infix text of `t` with the parentheses of node `i` of its layout left out. -/
def renderWithout (t : Formula) (i : Nat) : String := renderSkipping t i .top t 0

/-- The nodes the printer visits from node `j` of `t`, the subformula `s` standing at `place`:
each with its place and subformula, in the order they are printed. -/
def visits (t : Formula) : Place → Formula → Nat → List (Nat × Place × Formula)
  | place, s, j => (j, place, s) :: match s with
    | const _ | var _ => []
    | neg a => visits t (.operand 4) a (childStart t.bfs 1 j)
    | bin op a b => visits t (.operand op.precedence) a (childStart t.bfs 1 j) ++
        visits t (.right op.precedence) b (childStart t.bfs 1 j + 1)

theorem mem_visits_self (t : Formula) (p : Place) (s : Formula) (j : Nat) :
    (j, p, s) ∈ visits t p s j := by
  cases s <;> simp [visits]

section Skipping

variable (t : Formula) (skip : Nat)

theorem renderSkipping_eq (p : Place) (s : Formula) (j : Nat) :
    renderSkipping t skip p s j =
      if p.wraps s.precedence && j != skip then "(" ++ renderSkipping t skip .top s j ++ ")"
      else renderSkipping t skip .top s j := by
  cases s <;> rfl

theorem renderSkipping_top_neg (a : Formula) (j : Nat) :
    renderSkipping t skip .top (neg a) j =
      "-" ++ renderSkipping t skip (.operand 4) a (childStart t.bfs 1 j) := rfl

theorem renderSkipping_top_bin (op : Connective) (a b : Formula) (j : Nat) :
    renderSkipping t skip .top (bin op a b) j =
      renderSkipping t skip (.operand op.precedence) a (childStart t.bfs 1 j) ++ " " ++
        op.symbol ++ " " ++
        renderSkipping t skip (.right op.precedence) b (childStart t.bfs 1 j + 1) :=
  rfl

/-- Whether the printer leaves out a pair at a visit: the node is `skip` and would wrap. -/
def Skips (x : Nat × Place × Formula) : Bool := x.1 == skip && x.2.1.wraps x.2.2.precedence

theorem count_open_symbol (op : Connective) : op.symbol.toList.count '(' = 0 := by
  cases op <;> decide

theorem count_open_text (v : Var) : v.text.toList.count '(' = 0 := by
  have hv : v.name ≠ '(' := ne_of_isAlpha v.letter rfl
  simp [Var.text, hv]

theorem count_renderSkipping_cons (q : Place) (s : Formula) (j : Nat)
    (rest : List (Nat × Place × Formula)) :
    (renderSkipping t skip q s j).toList.count '(' +
        (((j, q, s) :: rest).filter (Skips skip)).length =
      (if q.wraps s.precedence then 1 else 0) + (renderSkipping t skip .top s j).toList.count '(' +
        (rest.filter (Skips skip)).length := by
  rw [renderSkipping_eq, List.filter_cons]
  by_cases hw : q.wraps s.precedence <;> by_cases hj : j = skip <;> simp [hw, hj, Skips] <;> omega

theorem count_renderSkipping (p : Place) (s : Formula) (j : Nat) :
    (renderSkipping t skip p s j).toList.count '(' + ((visits t p s j).filter (Skips skip)).length =
      (if p.wraps s.precedence then 1 else 0) + s.parensAt 3 := by
  induction s generalizing p j with
  | const b =>
    rw [visits, count_renderSkipping_cons]
    cases b <;> simp [renderSkipping, parensAt, Place.wraps]
  | var v =>
    rw [visits, count_renderSkipping_cons]
    simp [renderSkipping, parensAt, Place.wraps, count_open_text]
  | neg a iha =>
    rw [visits, count_renderSkipping_cons, renderSkipping_top_neg]
    have h := iha (.operand 4) (childStart t.bfs 1 j)
    rw [parensAt_operand_four] at h
    have hm : "-".toList.count '(' = 0 := by decide
    simp only [String.toList_append, List.count_append, parensAt]
    omega
  | bin op a b iha ihb =>
    rw [visits, count_renderSkipping_cons, renderSkipping_top_bin]
    have ha := iha (.operand op.precedence) (childStart t.bfs 1 j)
    have hb := ihb (.right op.precedence) (childStart t.bfs 1 j + 1)
    rw [parensAt_operand_precedence] at ha
    rw [parensAt_right_precedence] at hb
    have hsp : " ".toList.count '(' = 0 := by decide
    have hop := count_open_symbol op
    have h3 := op.tier_le_three
    simp only [String.toList_append, List.count_append, List.filter_append, List.length_append,
      parensAt, show ¬ 3 < op.tier by omega, if_false]
    omega

theorem visits_subset {p q : Place} {s u : Formula} {j k : Nat} (h : (k, q, u) ∈ visits t p s j) :
    visits t q u k ⊆ visits t p s j := by
  induction s generalizing p j with
  | const b =>
    obtain ⟨rfl, rfl, rfl⟩ : k = j ∧ q = p ∧ u = const b := by simpa [visits] using h
    exact List.Subset.refl _
  | var v =>
    obtain ⟨rfl, rfl, rfl⟩ : k = j ∧ q = p ∧ u = var v := by simpa [visits] using h
    exact List.Subset.refl _
  | neg a iha =>
    rw [visits, List.mem_cons] at h
    rcases h with h | h
    · simp only [Prod.mk.injEq] at h
      obtain ⟨rfl, rfl, rfl⟩ := h
      exact List.Subset.refl _
    · rw [visits]
      exact List.Subset.trans (iha h) (List.subset_cons_self _ _)
  | bin op a b iha ihb =>
    rw [visits, List.mem_cons, List.mem_append] at h
    rcases h with h | h | h
    · simp only [Prod.mk.injEq] at h
      obtain ⟨rfl, rfl, rfl⟩ := h
      exact List.Subset.refl _
    · rw [visits]
      exact List.Subset.trans (iha h)
        (List.Subset.trans (List.subset_append_left _ _) (List.subset_cons_self _ _))
    · rw [visits]
      exact List.Subset.trans (ihb h)
        (List.Subset.trans (List.subset_append_right _ _) (List.subset_cons_self _ _))

end Skipping

/-! ### The printer's walk is the layout -/

theorem precedence_nodeFrom (s : Formula) (c : Nat) : (s.nodeFrom c).precedence = s.precedence := by
  cases s <;> rfl

section Places

variable (t : Formula)

theorem placeOf_zero : t.layout.placeOf 0 = .top := by
  simp [Layout.placeOf, parents_eq_edges]

theorem exists_parent {i : Nat} (h0 : 0 < i) (hi : i < t.size) :
    ∃ p, t.layout.parents[i]? = some (some p) := by
  obtain ⟨k, rfl⟩ : ∃ k, i = k + 1 := ⟨i - 1, by omega⟩
  have hlen : k < t.layout.edges.length := by
    have h := congrArg List.length (map_fst_edges t)
    rw [List.length_map, List.length_range'] at h
    omega
  rw [parents_eq_edges, List.getElem?_cons_succ, List.getElem?_map, List.getElem?_eq_getElem hlen]
  exact ⟨_, rfl⟩

theorem parents_child {j k : Nat} {s a : Formula} (hs : t.bfs[j]? = some s)
    (ha : s.children[k]? = some a) :
    t.layout.parents[childStart t.bfs 1 j + k]? = some (some j) := by
  refine (parents_getElem?_eq_some_iff t _ j).mpr ⟨_, by rw [getElem?_layout_nodes, hs]; rfl, ?_⟩
  have hk : k < s.arity := by
    rw [arity_eq_length_children]
    exact (List.getElem?_eq_some_iff.mp ha).1
  rw [children_nodeFrom, List.mem_range'_1]
  omega

theorem placeOf_neg_child {j : Nat} {a : Formula} (hs : t.bfs[j]? = some (neg a)) :
    t.layout.placeOf (childStart t.bfs 1 j) = .operand 4 := by
  have hp := parents_child t hs (k := 0) rfl
  rw [Nat.add_zero] at hp
  simp [Layout.placeOf, hp, getElem?_layout_nodes, hs, nodeFrom]

theorem placeOf_left_child {j : Nat} {op : Connective} {a b : Formula}
    (hs : t.bfs[j]? = some (bin op a b)) :
    t.layout.placeOf (childStart t.bfs 1 j) = .operand op.precedence := by
  have hp := parents_child t hs (k := 0) rfl
  rw [Nat.add_zero] at hp
  simp [Layout.placeOf, hp, getElem?_layout_nodes, hs, nodeFrom]

theorem placeOf_right_child {j : Nat} {op : Connective} {a b : Formula}
    (hs : t.bfs[j]? = some (bin op a b)) :
    t.layout.placeOf (childStart t.bfs 1 j + 1) = .right op.precedence := by
  have hp := parents_child t hs (k := 1) rfl
  simp [Layout.placeOf, hp, getElem?_layout_nodes, hs, nodeFrom]

theorem mem_layout_of_mem_visits {p q : Place} {s u : Formula} {j k : Nat}
    (hs : t.bfs[j]? = some s) (hp : p = t.layout.placeOf j) (h : (k, q, u) ∈ visits t p s j) :
    t.bfs[k]? = some u ∧ q = t.layout.placeOf k := by
  induction s generalizing p j with
  | const b =>
    obtain ⟨rfl, rfl, rfl⟩ : k = j ∧ q = p ∧ u = const b := by simpa [visits] using h
    exact ⟨hs, hp⟩
  | var v =>
    obtain ⟨rfl, rfl, rfl⟩ : k = j ∧ q = p ∧ u = var v := by simpa [visits] using h
    exact ⟨hs, hp⟩
  | neg a iha =>
    rw [visits, List.mem_cons] at h
    rcases h with h | h
    · simp only [Prod.mk.injEq] at h
      obtain ⟨rfl, rfl, rfl⟩ := h
      exact ⟨hs, hp⟩
    · exact iha (getElem?_bfs_child t hs (k := 0) rfl) (placeOf_neg_child t hs).symm h
  | bin op a b iha ihb =>
    rw [visits, List.mem_cons, List.mem_append] at h
    rcases h with h | h | h
    · simp only [Prod.mk.injEq] at h
      obtain ⟨rfl, rfl, rfl⟩ := h
      exact ⟨hs, hp⟩
    · exact iha (getElem?_bfs_child t hs (k := 0) rfl) (placeOf_left_child t hs).symm h
    · exact ihb (getElem?_bfs_child t hs (k := 1) rfl) (placeOf_right_child t hs).symm h

theorem mem_visits_of_lt_size {i : Nat} (hi : i < t.size) :
    ∃ s, t.bfs[i]? = some s ∧ (i, t.layout.placeOf i, s) ∈ visits t .top t 0 := by
  -- strong induction on the index: a node's parent comes before it and is visited first
  induction i using Nat.strong_induction_on with
  | _ i ih =>
  rcases Nat.eq_zero_or_pos i with rfl | h0
  · refine ⟨t, getElem?_bfs_zero t, ?_⟩
    rw [placeOf_zero]
    exact mem_visits_self t .top t 0
  · obtain ⟨p, hp⟩ := exists_parent t h0 hi
    obtain ⟨n, hn, hc⟩ := (parents_getElem?_eq_some_iff t i p).mp hp
    have hpi := lt_of_mem_children t hn hc
    obtain ⟨s, hs, hmem⟩ := ih p hpi (by omega)
    rw [getElem?_layout_nodes, hs, Option.map_some, Option.some.injEq] at hn
    subst hn
    have hsub := visits_subset t hmem
    rw [children_nodeFrom, List.mem_range'_1] at hc
    cases s with
    | const b => simp only [arity] at hc; omega
    | var v => simp only [arity] at hc; omega
    | neg a =>
      obtain rfl : i = childStart t.bfs 1 p := by simp only [arity] at hc; omega
      refine ⟨a, getElem?_bfs_child t hs (k := 0) rfl, hsub ?_⟩
      rw [placeOf_neg_child t hs, visits]
      exact List.mem_cons_of_mem _ (mem_visits_self t _ a _)
    | bin op a b =>
      simp only [arity] at hc
      rcases Nat.lt_or_ge i (childStart t.bfs 1 p + 1) with hl | hr
      · obtain rfl : i = childStart t.bfs 1 p := by omega
        refine ⟨a, getElem?_bfs_child t hs (k := 0) rfl, hsub ?_⟩
        rw [placeOf_left_child t hs, visits]
        exact List.mem_cons_of_mem _ (List.mem_append_left _ (mem_visits_self t _ a _))
      · obtain rfl : i = childStart t.bfs 1 p + 1 := by omega
        refine ⟨b, getElem?_bfs_child t hs (k := 1) rfl, hsub ?_⟩
        rw [placeOf_right_child t hs, visits]
        exact List.mem_cons_of_mem _ (List.mem_append_right _ (mem_visits_self t _ b _))

theorem mem_visits_iff {k : Nat} {q : Place} {u : Formula} :
    (k, q, u) ∈ visits t .top t 0 ↔ t.bfs[k]? = some u ∧ q = t.layout.placeOf k := by
  constructor
  · exact mem_layout_of_mem_visits t (getElem?_bfs_zero t) (placeOf_zero t).symm
  · rintro ⟨hu, rfl⟩
    have hk : k < t.size := by
      rw [← length_bfs]
      exact (List.getElem?_eq_some_iff.mp hu).1
    obtain ⟨s, hs, hmem⟩ := mem_visits_of_lt_size t hk
    rw [hu, Option.some.injEq] at hs
    rwa [hs]

theorem needsParens_iff {i : Nat} :
    t.layout.needsParens i = true ↔
      ∃ s, t.bfs[i]? = some s ∧ (t.layout.placeOf i).wraps s.precedence = true := by
  simp only [Layout.needsParens, getElem?_layout_nodes]
  cases t.bfs[i]? <;> simp [precedence_nodeFrom]

theorem exists_skips_iff (i : Nat) :
    (∃ x ∈ visits t .top t 0, Skips i x = true) ↔ t.layout.needsParens i = true := by
  rw [needsParens_iff]
  constructor
  · rintro ⟨⟨k, q, u⟩, hx, hskip⟩
    obtain ⟨hu, rfl⟩ := (mem_visits_iff t).mp hx
    simp only [Skips, Bool.and_eq_true, beq_iff_eq] at hskip
    obtain ⟨rfl, hw⟩ := hskip
    exact ⟨u, hu, hw⟩
  · rintro ⟨s, hs, hw⟩
    exact ⟨(i, t.layout.placeOf i, s), (mem_visits_iff t).mpr ⟨hs, rfl⟩, by simp [Skips, hw]⟩

end Places

/-! ### What is left out -/

theorem wraps_and_ne_of_skips {skip j : Nat} {p : Place} {s : Formula}
    (h : Skips skip (j, p, s) = false) :
    (p.wraps s.precedence && j != skip) = p.wraps s.precedence := by
  by_cases hj : j = skip <;> simp_all [Skips]

theorem renderSkipping_eq_renderAt (t : Formula) (skip : Nat) (p : Place) (s : Formula) (j : Nat)
    (h : ∀ x ∈ visits t p s j, Skips skip x = false) :
    renderSkipping t skip p s j = renderAt p s := by
  -- at each node the pair is printed as `renderAt` prints it, since the node is not skipped
  induction s generalizing p j with
  | const b =>
    rw [renderSkipping_eq, renderAt_eq, wraps_and_ne_of_skips (h _ (mem_visits_self t p _ j))]
    rfl
  | var v =>
    rw [renderSkipping_eq, renderAt_eq, wraps_and_ne_of_skips (h _ (mem_visits_self t p _ j))]
    rfl
  | neg a iha =>
    have ha := iha (.operand 4) (childStart t.bfs 1 j)
      (fun x hx => h x (by rw [visits]; exact List.mem_cons_of_mem _ hx))
    rw [renderSkipping_eq, renderAt_eq, wraps_and_ne_of_skips (h _ (mem_visits_self t p _ j)),
      renderSkipping_top_neg, renderAt_top_neg, ha]
  | bin op a b iha ihb =>
    have ha := iha (.operand op.precedence) (childStart t.bfs 1 j)
      (fun x hx => h x (by rw [visits]; exact List.mem_cons_of_mem _ (List.mem_append_left _ hx)))
    have hb := ihb (.right op.precedence) (childStart t.bfs 1 j + 1)
      (fun x hx => h x (by rw [visits]; exact List.mem_cons_of_mem _ (List.mem_append_right _ hx)))
    rw [renderSkipping_eq, renderAt_eq, wraps_and_ne_of_skips (h _ (mem_visits_self t p _ j)),
      renderSkipping_top_bin, renderAt_top_bin, ha, hb]

theorem renderWithout_eq_render (t : Formula) {i : Nat} (h : t.layout.needsParens i = false) :
    t.renderWithout i = t.render := by
  refine renderSkipping_eq_renderAt t i .top t 0 fun x hx => ?_
  cases hs : Skips i x
  · rfl
  · exact absurd ((exists_skips_iff t i).mp ⟨x, hx, hs⟩) (by simp [h])

theorem count_renderWithout_lt (t : Formula) {i : Nat} (h : t.layout.needsParens i = true) :
    (t.renderWithout i).toList.count '(' < t.parensAt 3 := by
  obtain ⟨x, hx, hskip⟩ := (exists_skips_iff t i).mpr h
  have hpos : 0 < ((visits t .top t 0).filter (Skips i)).length :=
    List.length_pos_of_mem (List.mem_filter.mpr ⟨hx, hskip⟩)
  have hcount := count_renderSkipping t i .top t 0
  simp only [Place.wraps, Bool.false_eq_true, if_false, Nat.zero_add] at hcount
  rw [renderWithout]
  omega

/-! ### Reading the text back -/

theorem read_value_eq_ok_iff {s : String} {f : Formula} :
    (read s).value = .ok f ↔ ∃ ts, (lex s).value = .ok ts ∧ (parse ts).value = .ok f := by
  simp only [read, Traced.bind_value]
  cases (lex s).value with
  | error e => simp
  | ok ts =>
    cases h : (parse ts).value <;> simp [h]

/-- The printer writes no parentheses that could be left out: printing a formula without the
pair of one node that needs it gives a text that the reader either refuses or reads as another
formula. The reader needs a group for each pair the formula needs, and the text has one fewer. -/
theorem read_renderWithout_ne (t : Formula) (i : Nat) (h : t.layout.needsParens i = true) :
    (read (t.renderWithout i)).value ≠ .ok t := by
  intro hread
  obtain ⟨ts, hlex, hparse⟩ := read_value_eq_ok_iff.mp hread
  have hneed := parensAt_le_count (derives_of_parse hparse)
  have hopen := count_open_of_lex hlex
  have hless := count_renderWithout_lt t h
  omega

/-- In `-(a & b)` the conjunction, node 1, needs its parentheses. Printed without them the text
is `-a & b`, which the reader takes as the conjunction of `-a` and `b`. -/
theorem read_renderWithout_negated_conjunction :
    (neg (bin .and (var ⟨'a', rfl⟩) (var ⟨'b', rfl⟩))).layout.needsParens 1 = true ∧
      (neg (bin .and (var ⟨'a', rfl⟩) (var ⟨'b', rfl⟩))).renderWithout 1 = "-a & b" ∧
      (read "-a & b").value = .ok (bin .and (neg (var ⟨'a', rfl⟩)) (var ⟨'b', rfl⟩)) ∧
      (read ((neg (bin .and (var ⟨'a', rfl⟩) (var ⟨'b', rfl⟩))).renderWithout 1)).value ≠
        .ok (neg (bin .and (var ⟨'a', rfl⟩) (var ⟨'b', rfl⟩))) := by
  have hneeds : (neg (bin .and (var ⟨'a', rfl⟩) (var ⟨'b', rfl⟩))).layout.needsParens 1 = true := by
    have h0 := getElem?_bfs_zero (neg (bin .and (var ⟨'a', rfl⟩) (var ⟨'b', rfl⟩)))
    have hc : childStart (neg (bin .and (var ⟨'a', rfl⟩) (var ⟨'b', rfl⟩))).bfs 1 0 = 1 := by
      simp [childStart]
    have h1 := getElem?_bfs_child _ h0 (k := 0) rfl
    have hp := placeOf_neg_child _ h0
    rw [hc] at h1 hp
    exact (needsParens_iff _).mpr ⟨_, h1, by rw [hp]; decide⟩
  have htext : (neg (bin .and (var ⟨'a', rfl⟩) (var ⟨'b', rfl⟩))).renderWithout 1 = "-a & b" := by
    simp [renderWithout, renderSkipping, childStart, Place.wraps, precedence, Connective.precedence,
      Connective.tier, Connective.symbol, Var.text]
  have hlex : (lex "-a & b").value = .ok [opToken "-", ⟨"a", .var⟩, opToken "&", ⟨"b", .var⟩] := by
    simp [lex_eq_scan, scan, builtin, LexRule.exact, LexRule.oneOf, LexRule.letter, LexRule.blanks,
      literal_lengths, firstMatch, opToken]
    rfl
  have hder := (Derives.join (Derives.neg (Derives.var (⟨'a', rfl⟩ : Var))).lift
      (rfl : Connective.and.tier = 0 + 1) (by decide : "&" ∈ Connective.and.spellings)
      (Derives.var (⟨'b', rfl⟩ : Var))).lift.lift
  exact ⟨hneeds, htext,
    read_value_eq_ok_iff.mpr ⟨_, hlex, parse_of_derives (by simpa [Var.text] using hder)⟩,
    read_renderWithout_ne _ 1 hneeds⟩

end Formula

end PropCalc
