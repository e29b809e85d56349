import PropCalc.Combinator.Rule

namespace PropCalc

-- The interpreter and its two loops unfold by `simp` throughout this file.
attribute [local simp] RuleSet.run Reply.manyFrom Reply.chainFrom

namespace Reply

/-- Successes of a parse from a position up to `n` end between that position and `n`. -/
def Bounded (n : Nat) (step : Nat → Reply) : Prop :=
  ∀ p v q, p ≤ n → step p = .done v q → p ≤ q ∧ q ≤ n

/-- A reply that reads nothing from `pos`: it gets stuck, or succeeds at `pos` itself. -/
@[simp] def StaysAt (pos : Nat) : Reply → Prop
  | .done _ q => q = pos
  | .miss => False
  | .stuck => True

section Loops

variable {n : Nat} {step operand operator : Nat → Reply}

theorem manyFrom_bounded (h : Bounded n step) (bound : Nat) :
    ∀ {p : Nat} {acc : List Datum} {v : Datum} {q : Nat}, p ≤ n →
      manyFrom step bound p acc = .done v q → p ≤ q ∧ q ≤ n := by
  induction bound with
  | zero => intro p acc v q _ hm; simp at hm
  | succ bound ih =>
    intro p acc v q hp hm
    cases hs : step p with
    | done w p' =>
      obtain ⟨hpp', hp'n⟩ := h p w p' hp hs
      simp only [manyFrom, hs] at hm
      split at hm
      · cases hm; omega
      · have := ih hp'n hm; omega
    | miss => simp only [manyFrom, hs, done.injEq] at hm; omega
    | stuck => simp [hs] at hm

theorem chainFrom_bounded (hv : Bounded n operand) (ho : Bounded n operator) (bound : Nat) :
    ∀ {acc : Datum} {p : Nat} {v : Datum} {q : Nat}, p ≤ n →
      chainFrom operand operator bound acc p = .done v q → p ≤ q ∧ q ≤ n := by
  induction bound with
  | zero => intro acc p v q _ hc; simp at hc
  | succ bound ih =>
    intro acc p v q hp hc
    cases hop : operator p with
    | miss => simp only [chainFrom, hop, done.injEq] at hc; omega
    | stuck => simp [hop] at hc
    | done o p' =>
      obtain ⟨h1, h2⟩ := ho p o p' hp hop
      cases hrand : operand p' with
      | miss => simp only [chainFrom, hop, hrand, done.injEq] at hc; omega
      | stuck => simp [hop, hrand] at hc
      | done r p'' =>
        obtain ⟨h3, h4⟩ := hv p' r p'' h2 hrand
        simp only [chainFrom, hop, hrand] at hc
        split at hc
        · cases hc
        · have := ih h4 hc; omega

theorem manyFrom_ne_stuck (hb : Bounded n step) (ha : ∀ p, p ≤ n → step p ≠ .stuck)
    (bound : Nat) : ∀ {p : Nat} {acc : List Datum}, p ≤ n → n - p < bound →
      manyFrom step bound p acc ≠ .stuck := by
  induction bound with
  | zero => intro p acc _ hlt; omega
  | succ bound ih =>
    intro p acc hp hlt
    cases hs : step p with
    | done w p' =>
      obtain ⟨hpp', hp'n⟩ := hb p w p' hp hs
      simp only [manyFrom, hs]
      split
      · simp
      · exact ih hp'n (by omega)
    | miss => simp [hs]
    | stuck => exact absurd hs (ha p hp)

theorem chainFrom_ne_stuck (hbv : Bounded n operand) (hbo : Bounded n operator)
    (hav : ∀ p, p ≤ n → operand p ≠ .stuck) (hao : ∀ p, p ≤ n → operator p ≠ .stuck)
    (hne : ∀ p, p ≤ n → ∀ o x, operator p = .done o p → operand p = .done x p → False)
    (bound : Nat) : ∀ {acc : Datum} {p : Nat}, p ≤ n → n - p < bound →
      chainFrom operand operator bound acc p ≠ .stuck := by
  induction bound with
  | zero => intro acc p _ hlt; omega
  | succ bound ih =>
    intro acc p hp hlt
    cases hop : operator p with
    | miss => simp [hop]
    | stuck => exact absurd hop (hao p hp)
    | done o p' =>
      obtain ⟨h1, h2⟩ := hbo p o p' hp hop
      cases hrand : operand p' with
      | miss => simp [hop, hrand]
      | stuck => exact absurd hrand (hav p' h2)
      | done r p'' =>
        obtain ⟨h3, h4⟩ := hbv p' r p'' h2 hrand
        simp only [chainFrom, hop, hrand]
        split
        · -- the turn read nothing, so operator and operand both succeeded at `p` itself
          have hp' : p' = p := by omega
          have hp'' : p'' = p := by omega
          rw [hp'] at hop
          rw [hp', hp''] at hrand
          exact (hne p hp o r hop hrand).elim
        · exact ih h4 (by omega)

theorem manyFrom_congr {step' : Nat → Reply} (h : ∀ p, step p ≠ .stuck → step' p = step p)
    (bound : Nat) : ∀ {p : Nat} {acc : List Datum}, manyFrom step bound p acc ≠ .stuck →
      manyFrom step' bound p acc = manyFrom step bound p acc := by
  induction bound with
  | zero => intro p acc hm; simp at hm
  | succ bound ih =>
    intro p acc hm
    cases hs : step p with
    | done w p' =>
      have hs' := (h p (by simp [hs])).trans hs
      simp only [manyFrom, hs, hs'] at hm ⊢
      split
      · rfl
      · next hne => exact ih (by simpa [hne] using hm)
    | miss => simp [hs, (h p (by simp [hs])).trans hs]
    | stuck => simp [hs] at hm

theorem chainFrom_congr {operand' operator' : Nat → Reply}
    (hv : ∀ p, operand p ≠ .stuck → operand' p = operand p)
    (ho : ∀ p, operator p ≠ .stuck → operator' p = operator p) (bound : Nat) :
    ∀ {acc : Datum} {p : Nat}, chainFrom operand operator bound acc p ≠ .stuck →
      chainFrom operand' operator' bound acc p = chainFrom operand operator bound acc p := by
  induction bound with
  | zero => intro acc p hc; simp at hc
  | succ bound ih =>
    intro acc p hc
    cases hop : operator p with
    | miss => simp [hop, (ho p (by simp [hop])).trans hop]
    | stuck => simp [hop] at hc
    | done o p' =>
      have hop' := (ho p (by simp [hop])).trans hop
      cases hrand : operand p' with
      | miss => simp [hop, hop', hrand, (hv p' (by simp [hrand])).trans hrand]
      | stuck => simp [hop, hrand] at hc
      | done r p'' =>
        have hrand' := (hv p' (by simp [hrand])).trans hrand
        simp only [chainFrom, hop, hop', hrand, hrand'] at hc ⊢
        split
        · rfl
        · next hne => exact ih (by simpa [hne] using hc)

end Loops

end Reply

namespace RuleSet

variable (rs : RuleSet) (ts : Array (Token String))

/-! ### Positions -/

theorem run_bounded (fuel : Nat) : ∀ r, Reply.Bounded ts.size (rs.run ts fuel r) := by
  induction fuel with
  | zero => intro r p v q _ h; simp at h
  | succ fuel ih =>
    intro r p v q hp h
    cases r with
    | tagged tag | reserved lexeme tag =>
      cases ht : ts[p]? with
      | none => simp [ht] at h
      | some t =>
        have := (Array.getElem?_eq_some_iff.mp ht).1
        simp only [run, ht] at h
        split at h <;> cases h
        omega
    | seq a b =>
      cases ha : rs.run ts fuel a p with
      | done x p' =>
        obtain ⟨h1, h2⟩ := ih a p x p' hp ha
        cases hb : rs.run ts fuel b p' with
        | done y q' =>
          simp only [run, ha, hb, Reply.done.injEq] at h
          obtain ⟨-, rfl⟩ := h
          have := ih b p' y q' h2 hb
          omega
        | miss | stuck => simp [ha, hb] at h
      | miss | stuck => simp [ha] at h
    | alt a b =>
      cases ha : rs.run ts fuel a p with
      | miss => simp only [run, ha] at h; exact ih b p v q hp h
      | done x p' => simp only [run, ha] at h; exact ih a p v q hp (ha.trans h)
      | stuck => simp [ha] at h
    | optional a =>
      cases ha : rs.run ts fuel a p with
      | done x p' =>
        simp only [run, ha, Reply.done.injEq] at h
        obtain ⟨-, rfl⟩ := h
        exact ih a p x p' hp ha
      | miss => simp only [run, ha, Reply.done.injEq] at h; omega
      | stuck => simp [ha] at h
    | many a =>
      simp only [run] at h
      exact Reply.manyFrom_bounded (ih a) _ hp h
    | whole a | keep a _ =>
      cases ha : rs.run ts fuel a p with
      | done x p' =>
        simp only [run, ha] at h
        split at h <;> cases h
        exact ih a p _ _ hp ha
      | miss | stuck => simp [ha] at h
    | call name =>
      cases hn : rs.rules.lookup name with
      | some body => simp only [run, hn] at h; exact ih body p v q hp h
      | none => simp [hn] at h
    | chain a o =>
      cases ha : rs.run ts fuel a p with
      | done x p' =>
        obtain ⟨h1, h2⟩ := ih a p x p' hp ha
        simp only [run, ha] at h
        have := Reply.chainFrom_bounded (ih a) (ih o) _ h2 h
        omega
      | miss | stuck => simp [ha] at h
    | replace a c =>
      cases ha : rs.run ts fuel a p with
      | done x p' =>
        simp only [run, ha, Reply.done.injEq] at h
        obtain ⟨-, rfl⟩ := h
        exact ih a p x p' hp ha
      | miss | stuck => simp [ha] at h

theorem run_tagged_next {fuel : Nat} {tag : String} {pos : Nat} {v : Datum} {q : Nat}
    (h : rs.run ts fuel (.tagged tag) pos = .done v q) : q = pos + 1 := by
  cases fuel with
  | zero => simp at h
  | succ fuel =>
    cases ht : ts[pos]? with
    | none => simp [ht] at h
    | some t =>
      simp only [run, ht] at h
      split at h <;> cases h
      rfl

theorem run_reserved_next {fuel : Nat} {lexeme tag : String} {pos : Nat} {v : Datum} {q : Nat}
    (h : rs.run ts fuel (.reserved lexeme tag) pos = .done v q) : q = pos + 1 := by
  cases fuel with
  | zero => simp at h
  | succ fuel =>
    cases ht : ts[pos]? with
    | none => simp [ht] at h
    | some t =>
      simp only [run, ht] at h
      split at h <;> cases h
      rfl

/-! ### Depth -/

theorem run_of_le (fuel : Nat) : ∀ {fuel' : Nat} (r : Rule) (pos : Nat), fuel ≤ fuel' →
    rs.run ts fuel r pos ≠ .stuck → rs.run ts fuel' r pos = rs.run ts fuel r pos := by
  induction fuel with
  | zero => intro fuel' r pos _ h; simp at h
  | succ fuel ih =>
    intro fuel' r pos hle h
    obtain ⟨m, rfl⟩ : ∃ m, fuel' = m + 1 := ⟨fuel' - 1, by omega⟩
    have hm : fuel ≤ m := by omega
    -- each case: a part that answers at depth `fuel` answers alike at depth `m`
    cases r with
    | tagged tag => rfl
    | reserved lexeme tag => rfl
    | seq a b =>
      cases ha : rs.run ts fuel a pos with
      | stuck => simp [ha] at h
      | miss => simp [ha, ih a pos hm (by simp [ha])]
      | done x p =>
        cases hb : rs.run ts fuel b p with
        | stuck => simp [ha, hb] at h
        | miss | done =>
          simp [ha, hb, ih a pos hm (by simp [ha]), ih b p hm (by simp [hb])]
    | alt a b =>
      cases ha : rs.run ts fuel a pos with
      | stuck => simp [ha] at h
      | done => simp [ha, ih a pos hm (by simp [ha])]
      | miss =>
        simp only [run, ha, ih a pos hm (by simp [ha])] at h ⊢
        exact ih b pos hm h
    | many a =>
      simp only [run] at h ⊢
      exact Reply.manyFrom_congr (fun p => ih a p hm) _ h
    | optional a | whole a | keep a _ | replace a _ =>
      cases ha : rs.run ts fuel a pos with
      | stuck => simp [ha] at h
      | miss | done => simp [ha, ih a pos hm (by simp [ha])]
    | call name =>
      cases hn : rs.rules.lookup name with
      | none => simp [hn]
      | some body =>
        simp only [run, hn] at h ⊢
        exact ih body pos hm h
    | chain v o =>
      cases ha : rs.run ts fuel v pos with
      | stuck => simp [ha] at h
      | miss => simp [ha, ih v pos hm (by simp [ha])]
      | done x p =>
        simp only [run, ha, ih v pos hm (by simp [ha])] at h ⊢
        exact Reply.chainFrom_congr (fun p => ih v p hm) (fun p => ih o p hm) _ h

theorem ne_stuck_of_le {fuel fuel' : Nat} {r : Rule} {pos : Nat} (hle : fuel ≤ fuel')
    (h : rs.run ts fuel r pos ≠ .stuck) : rs.run ts fuel' r pos ≠ .stuck := by
  rwa [rs.run_of_le ts fuel r pos hle h]

/-- A rule finishes at a position when some depth of nested calls gives it an answer. -/
def Finishes (r : Rule) (pos : Nat) : Prop :=
  ∃ fuel, rs.run ts fuel r pos ≠ .stuck

/-- At `p`, the operator and the operand of a fold both succeed without reading a token. -/
def EmptyPair (v o : Rule) (p : Nat) : Prop :=
  ∃ fuel x y, rs.run ts fuel o p = .done x p ∧ rs.run ts fuel v p = .done y p

theorem exists_fuel_answers {r : Rule} (n : Nat) (h : ∀ p ≤ n, rs.Finishes ts r p) :
    ∃ fuel, ∀ p ≤ n, rs.run ts fuel r p ≠ .stuck := by
  induction n with
  | zero =>
    obtain ⟨fuel, hf⟩ := h 0 (Nat.le_refl 0)
    exact ⟨fuel, fun p hp => by rwa [Nat.le_zero.mp hp]⟩
  | succ n ih =>
    obtain ⟨N, hN⟩ := ih fun p hp => h p (by omega)
    obtain ⟨M, hM⟩ := h (n + 1) (Nat.le_refl _)
    refine ⟨max N M, fun p hp => ?_⟩
    rcases Nat.lt_or_ge p (n + 1) with hlt | hge
    · exact rs.ne_stuck_of_le ts (Nat.le_max_left N M) (hN p (by omega))
    · rw [show p = n + 1 by omega]
      exact rs.ne_stuck_of_le ts (Nat.le_max_right N M) hM

/-! ### Loops -/

theorem run_many_ne_stuck {fuel : Nat} {a : Rule} {pos : Nat} (hpos : pos ≤ ts.size)
    (ha : ∀ p ≤ ts.size, rs.run ts fuel a p ≠ .stuck) :
    rs.run ts (fuel + 1) (.many a) pos ≠ .stuck := by
  simp only [run]
  exact Reply.manyFrom_ne_stuck (rs.run_bounded ts fuel a) ha _ hpos (by omega)

theorem run_chain_ne_stuck {fuel : Nat} {v o : Rule} {pos : Nat} (hpos : pos ≤ ts.size)
    (hv : ∀ p ≤ ts.size, rs.run ts fuel v p ≠ .stuck)
    (ho : ∀ p ≤ ts.size, rs.run ts fuel o p ≠ .stuck)
    (hne : ∀ p ≤ ts.size, ¬ rs.EmptyPair ts v o p) :
    rs.run ts (fuel + 1) (.chain v o) pos ≠ .stuck := by
  cases hfirst : rs.run ts fuel v pos with
  | stuck => exact absurd hfirst (hv pos hpos)
  | miss => simp [hfirst]
  | done x p =>
    have hp := (rs.run_bounded ts fuel v pos x p hpos hfirst).2
    simp only [run, hfirst]
    exact Reply.chainFrom_ne_stuck (rs.run_bounded ts fuel v) (rs.run_bounded ts fuel o) hv ho
      (fun p' hp' o' x' hop hrand => hne p' hp' ⟨fuel, o', x', hop, hrand⟩) _ hp (by omega)

theorem finishes_many {a : Rule} {pos : Nat} (hpos : pos ≤ ts.size)
    (ha : ∀ p ≤ ts.size, rs.Finishes ts a p) : rs.Finishes ts (.many a) pos := by
  obtain ⟨fuel, hfuel⟩ := rs.exists_fuel_answers ts _ ha
  exact ⟨fuel + 1, rs.run_many_ne_stuck ts hpos hfuel⟩

theorem finishes_chain {v o : Rule} {pos : Nat} (hpos : pos ≤ ts.size)
    (hv : ∀ p ≤ ts.size, rs.Finishes ts v p) (ho : ∀ p ≤ ts.size, rs.Finishes ts o p)
    (hne : ∀ p ≤ ts.size, ¬ rs.EmptyPair ts v o p) : rs.Finishes ts (.chain v o) pos := by
  obtain ⟨N, hN⟩ := rs.exists_fuel_answers ts _ hv
  obtain ⟨M, hM⟩ := rs.exists_fuel_answers ts _ ho
  refine ⟨max N M + 1, rs.run_chain_ne_stuck ts hpos (fun p hp => ?_) (fun p hp => ?_) hne⟩
  · exact rs.ne_stuck_of_le ts (Nat.le_max_left N M) (hN p hp)
  · exact rs.ne_stuck_of_le ts (Nat.le_max_right N M) (hM p hp)

/-- Token rules read from a position inside the tokens. A success ends between that position
and the end of the tokens, and `tagged` and `reserved` read one token. `many` finishes wherever
its body finishes. A fold finishes when its operand and operator finish and no position lets
both succeed without reading a token. -/
theorem positions_within_and_loops_finish :
    (∀ fuel r pos v q, pos ≤ ts.size → rs.run ts fuel r pos = .done v q →
      pos ≤ q ∧ q ≤ ts.size) ∧
    (∀ fuel tag pos v q, rs.run ts fuel (.tagged tag) pos = .done v q → q = pos + 1) ∧
    (∀ fuel lexeme tag pos v q, rs.run ts fuel (.reserved lexeme tag) pos = .done v q →
      q = pos + 1) ∧
    (∀ a pos, pos ≤ ts.size → (∀ p ≤ ts.size, rs.Finishes ts a p) →
      rs.Finishes ts (.many a) pos) ∧
    (∀ v o pos, pos ≤ ts.size → (∀ p ≤ ts.size, rs.Finishes ts v p) →
      (∀ p ≤ ts.size, rs.Finishes ts o p) → (∀ p ≤ ts.size, ¬ rs.EmptyPair ts v o p) →
      rs.Finishes ts (.chain v o) pos) :=
  ⟨fun fuel r => rs.run_bounded ts fuel r,
    fun _ _ _ _ _ h => rs.run_tagged_next ts h,
    fun _ _ _ _ _ _ h => rs.run_reserved_next ts h,
    fun _ _ hpos ha => rs.finishes_many ts hpos ha,
    fun _ _ _ hpos hv ho hne => rs.finishes_chain ts hpos hv ho hne⟩

/-! ### A fold that never finishes -/

theorem staysAt_run_zero (r : Rule) (pos : Nat) : (rs.run ts 0 r pos).StaysAt pos := by
  simp

theorem run_chain_stuck {fuel : Nat} {v o : Rule} {pos : Nat}
    (hv : (rs.run ts fuel v pos).StaysAt pos) (ho : (rs.run ts fuel o pos).StaysAt pos) :
    rs.run ts (fuel + 1) (.chain v o) pos = .stuck := by
  cases hfirst : rs.run ts fuel v pos with
  | stuck => simp [hfirst]
  | miss => simp [hfirst] at hv
  | done x p =>
    simp only [hfirst, Reply.StaysAt] at hv
    subst hv
    cases hop : rs.run ts fuel o p with
    | stuck => simp [hfirst, hop]
    | miss => simp [hop] at ho
    | done y q =>
      simp only [hop, Reply.StaysAt] at ho
      subst ho
      simp [hfirst, hop]

theorem not_finishes_chain {v o : Rule} {pos : Nat}
    (hv : ∀ fuel, (rs.run ts fuel v pos).StaysAt pos)
    (ho : ∀ fuel, (rs.run ts fuel o pos).StaysAt pos) : ¬ rs.Finishes ts (.chain v o) pos := by
  rintro ⟨fuel, hfuel⟩
  cases fuel with
  | zero => simp at hfuel
  | succ fuel => exact hfuel (rs.run_chain_stuck ts (hv fuel) (ho fuel))

theorem run_tagged_ne_stuck (fuel : Nat) (tag : String) (pos : Nat) :
    rs.run ts (fuel + 1) (.tagged tag) pos ≠ .stuck := by
  cases ht : ts[pos]? with
  | none => simp [ht]
  | some t => by_cases htag : t.tag = tag <;> simp [ht, htag]

theorem run_tagged_ne_done {fuel : Nat} {tag : String} (hb : ∀ t ∈ ts, t.tag ≠ tag)
    (pos : Nat) (v : Datum) (q : Nat) : rs.run ts fuel (.tagged tag) pos ≠ .done v q := by
  cases fuel with
  | zero => simp
  | succ fuel =>
    cases ht : ts[pos]? with
    | none => simp [ht]
    | some t => simp [ht, hb t (Array.mem_of_getElem? ht)]

theorem run_seq_ne_stuck {fuel : Nat} {a b : Rule} {pos : Nat}
    (ha : rs.run ts fuel a pos ≠ .stuck)
    (hb : ∀ x p, rs.run ts fuel a pos = .done x p → rs.run ts fuel b p ≠ .stuck) :
    rs.run ts (fuel + 1) (.seq a b) pos ≠ .stuck := by
  cases hfirst : rs.run ts fuel a pos with
  | stuck => exact absurd hfirst ha
  | miss => simp [hfirst]
  | done x p =>
    have := hb x p hfirst
    cases hsecond : rs.run ts fuel b p with
    | stuck => exact absurd hsecond this
    | miss | done => simp [hfirst, hsecond]

theorem run_seq_ne_done {fuel : Nat} {a b : Rule} {pos : Nat}
    (hb : ∀ p v q, rs.run ts fuel b p ≠ .done v q) (v : Datum) (q : Nat) :
    rs.run ts (fuel + 1) (.seq a b) pos ≠ .done v q := by
  cases hfirst : rs.run ts fuel a pos with
  | stuck | miss => simp [hfirst]
  | done x p =>
    cases hsecond : rs.run ts fuel b p with
    | stuck | miss => simp [hfirst, hsecond]
    | done y q' => exact absurd hsecond (hb p y q')

theorem run_optional_ne_stuck {fuel : Nat} {a : Rule} {pos : Nat}
    (ha : rs.run ts fuel a pos ≠ .stuck) : rs.run ts (fuel + 1) (.optional a) pos ≠ .stuck := by
  cases hbody : rs.run ts fuel a pos with
  | stuck => exact absurd hbody ha
  | miss | done => simp [hbody]

theorem staysAt_optional {fuel : Nat} {a : Rule} {pos : Nat}
    (ha : ∀ v q, rs.run ts fuel a pos ≠ .done v q) :
    (rs.run ts (fuel + 1) (.optional a) pos).StaysAt pos := by
  cases hbody : rs.run ts fuel a pos with
  | stuck | miss => simp [hbody]
  | done v q => exact absurd hbody (ha v q)

theorem run_replace_ne_stuck {fuel : Nat} {a : Rule} {c : Datum} {pos : Nat}
    (ha : rs.run ts fuel a pos ≠ .stuck) : rs.run ts (fuel + 1) (.replace a c) pos ≠ .stuck := by
  cases hbody : rs.run ts fuel a pos with
  | stuck => exact absurd hbody ha
  | miss | done => simp [hbody]

theorem staysAt_replace {fuel : Nat} {a : Rule} {c : Datum} {pos : Nat}
    (ha : (rs.run ts fuel a pos).StaysAt pos) :
    (rs.run ts (fuel + 1) (.replace a c) pos).StaysAt pos := by
  cases hbody : rs.run ts fuel a pos with
  | stuck => simp [hbody]
  | done => simpa [hbody] using ha
  | miss => simp [hbody] at ha

section EmptyOperand

/-- A run of `a` tokens closed by a `b`, or nothing: with no `b` among the tokens, it always
yields nothing. -/
def aRunThenB : Rule := .optional (.seq (.many (.tagged "a")) (.tagged "b"))

variable {rs ts}

theorem aRunThenB_staysAt (hb : ∀ t ∈ ts, t.tag ≠ "b") (fuel pos : Nat) :
    (rs.run ts fuel aRunThenB pos).StaysAt pos := by
  rcases fuel with _ | _ | fuel
  · exact rs.staysAt_run_zero ts _ pos
  · simp [aRunThenB]
  · exact rs.staysAt_optional ts (rs.run_seq_ne_done ts (rs.run_tagged_ne_done ts hb))

theorem aRunThenB_finishes (pos : Nat) (hpos : pos ≤ ts.size) :
    rs.run ts 4 aRunThenB pos ≠ .stuck :=
  rs.run_optional_ne_stuck ts <| rs.run_seq_ne_stuck ts
    (rs.run_many_ne_stuck ts hpos fun p _ => rs.run_tagged_ne_stuck ts 0 "a" p)
    fun _ p _ => rs.run_tagged_ne_stuck ts 1 "b" p

end EmptyOperand

theorem fold_with_empty_operands_never_finishes :
    (∀ p ≤ 3000, RuleSet.Finishes ⟨[("e", .chain aRunThenB (.replace aRunThenB (.str "f")))]⟩
      (List.replicate 3000 (⟨"a", "a"⟩ : Token String)).toArray aRunThenB p) ∧
    (∀ p ≤ 3000, RuleSet.Finishes ⟨[("e", .chain aRunThenB (.replace aRunThenB (.str "f")))]⟩
      (List.replicate 3000 (⟨"a", "a"⟩ : Token String)).toArray
      (.replace aRunThenB (.str "f")) p) ∧
    ¬ RuleSet.Finishes ⟨[("e", .chain aRunThenB (.replace aRunThenB (.str "f")))]⟩
      (List.replicate 3000 (⟨"a", "a"⟩ : Token String)).toArray
      (.chain aRunThenB (.replace aRunThenB (.str "f"))) 0 := by
  have hb : ∀ t ∈ (List.replicate 3000 (⟨"a", "a"⟩ : Token String)).toArray, t.tag ≠ "b" := by
    intro t ht
    simp only [List.mem_toArray, List.mem_replicate] at ht
    simp [ht.2]
  have hsize : (List.replicate 3000 (⟨"a", "a"⟩ : Token String)).toArray.size = 3000 := by
    simp only [List.size_toArray, List.length_replicate]
  refine ⟨fun p hp => ⟨4, aRunThenB_finishes p (by omega)⟩,
    fun p hp => ⟨5, run_replace_ne_stuck _ _ (aRunThenB_finishes p (by omega))⟩, ?_⟩
  exact not_finishes_chain _ _ (aRunThenB_staysAt hb · 0) fun fuel => by
    cases fuel with
    | zero => exact staysAt_run_zero _ _ _ 0
    | succ fuel => exact staysAt_replace _ _ (aRunThenB_staysAt hb fuel 0)

end RuleSet

end PropCalc
