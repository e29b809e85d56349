import Mathlib
import PropCalc.Analysis.QuineMcCluskey

namespace PropCalc

theorem exists_split_at {α : Type} {l : List α} {k : Nat} (h : k < l.length) :
    ∃ p x q, l = p ++ x :: q ∧ p.length = k := by
  refine ⟨l.take k, l[k], l.drop (k + 1), ?_, by simp; omega⟩
  rw [← List.drop_eq_getElem_cons h, List.take_append_drop]

namespace Bit

@[simp] theorem admits_ofBool (b v : Bool) : (ofBool b).admits v = (v == b) := by
  cases b <;> cases v <;> rfl

@[simp] theorem ofBool_ne_dontCare (b : Bool) : ofBool b ≠ dontCare := by
  cases b <;> simp [ofBool]

theorem exists_eq_ofBool {x : Bit} (h : x ≠ dontCare) : ∃ b, x = ofBool b := by
  cases x with
  | zero => exact ⟨false, rfl⟩
  | one => exact ⟨true, rfl⟩
  | dontCare => exact absurd rfl h

theorem eq_of_rank_eq {x y : Bit} (h : x.rank = y.rank) : x = y := by
  cases x <;> cases y <;> simp_all [rank]

end Bit

namespace Implicant

/-- The number of don't-care positions. -/
def freeCount (a : Implicant) : Nat := a.count .dontCare

/-! ### Covering rows -/

@[simp] theorem covers_nil_nil : covers [] [] = true := rfl

@[simp] theorem covers_nil_cons (v : Bool) (y : List Bool) : covers [] (v :: y) = false := rfl

@[simp] theorem covers_cons_nil (x : Bit) (a : Implicant) : covers (x :: a) [] = false := by
  simp [covers]

@[simp] theorem covers_cons_cons (x : Bit) (a : Implicant) (v : Bool) (y : List Bool) :
    covers (x :: a) (v :: y) = (x.admits v && covers a y) := by
  simp only [covers, List.length_cons, List.zip_cons_cons, List.all_cons]
  cases x.admits v <;> simp

theorem length_eq_of_covers {a : Implicant} {y : List Bool} (h : a.covers y = true) :
    a.length = y.length := by
  simp only [covers, Bool.and_eq_true, beq_iff_eq] at h
  exact h.1

theorem covers_append {a b : Implicant} {y z : List Bool} (h : a.length = y.length) :
    (a ++ b).covers (y ++ z) = (a.covers y && b.covers z) := by
  induction a generalizing y with
  | nil =>
    cases y with
    | nil => simp
    | cons => simp at h
  | cons x a ih =>
    cases y with
    | nil => simp at h
    | cons v y => simp [ih (by simpa using h), Bool.and_assoc]

theorem exists_covered (a : Implicant) : ∃ y, a.covers y = true := by
  induction a with
  | nil => exact ⟨[], rfl⟩
  | cons x a ih =>
    obtain ⟨y, hy⟩ := ih
    refine ⟨(x == .one) :: y, ?_⟩
    cases x <;> simp [hy, Bit.admits]

theorem covers_ofValues {y z : List Bool} : (ofValues y).covers z = true ↔ z = y := by
  induction y generalizing z with
  | nil => cases z <;> simp [ofValues]
  | cons b y ih =>
    cases z with
    | nil => simp [ofValues]
    | cons v z =>
      show covers (Bit.ofBool b :: ofValues y) (v :: z) = true ↔ _
      rw [covers_cons_cons, Bool.and_eq_true, ih]
      simp

theorem exists_split {p q : Implicant} {x : Bit} {y : List Bool}
    (h : (p ++ x :: q).covers y = true) :
    ∃ y₁ v y₂, y = y₁ ++ v :: y₂ ∧ y₁.length = p.length := by
  have hlen := length_eq_of_covers h
  simp only [List.length_append, List.length_cons] at hlen
  exact exists_split_at (show p.length < y.length by omega)

theorem covers_split {p q : Implicant} {x : Bit} {y₁ y₂ : List Bool} {v : Bool}
    (h : y₁.length = p.length) :
    (p ++ x :: q).covers (y₁ ++ v :: y₂) = (p.covers y₁ && x.admits v && q.covers y₂) := by
  rw [covers_append h.symm, covers_cons_cons, Bool.and_assoc]

theorem covers_free (p q : Implicant) (v : Bool) (y : List Bool) :
    (p ++ .dontCare :: q).covers y =
      ((p ++ Bit.ofBool v :: q).covers y || (p ++ Bit.ofBool (!v) :: q).covers y) := by
  by_cases hy : ∃ y₁ w y₂, y = y₁ ++ w :: y₂ ∧ y₁.length = p.length
  · obtain ⟨y₁, w, y₂, rfl, h⟩ := hy
    simp only [covers_split h, Bit.admits_ofBool]
    cases v <;> cases w <;> simp [Bit.admits]
  · have hnone : ∀ x, (p ++ x :: q).covers y = false :=
      fun x => Bool.eq_false_iff.mpr fun hc => hy (exists_split hc)
    simp [hnone]

theorem covers_free_of_fixed {p q : Implicant} {v : Bool} {y : List Bool}
    (h : (p ++ Bit.ofBool v :: q).covers y = true) : (p ++ .dontCare :: q).covers y = true := by
  rw [covers_free p q v, h, Bool.true_or]

/-! ### Gluing -/

/-- Two implicants glue exactly when they are the two fixings of one position, and the result
frees that position. -/
theorem glue_eq_some_iff {a b c : Implicant} :
    a.glue b = some c ↔ ∃ p q v, a = p ++ Bit.ofBool v :: q ∧ b = p ++ Bit.ofBool (!v) :: q ∧
      c = p ++ .dontCare :: q := by
  constructor
  · intro h
    induction a generalizing b c with
    | nil => simp [glue] at h
    | cons x a ih =>
      cases b with
      | nil => simp [glue] at h
      | cons y b =>
        unfold glue at h
        split_ifs at h with hxy hdc hab
        · obtain ⟨c', hc', rfl⟩ := Option.map_eq_some_iff.mp h
          obtain ⟨p, q, v, rfl, rfl, rfl⟩ := ih hc'
          exact ⟨x :: p, q, v, rfl, by rw [hxy]; rfl, rfl⟩
        · obtain ⟨u, rfl⟩ := Bit.exists_eq_ofBool fun e => hdc (.inl e)
          obtain ⟨w, rfl⟩ := Bit.exists_eq_ofBool fun e => hdc (.inr e)
          have hw : w = !u := by cases u <;> cases w <;> simp_all [Bit.ofBool]
          cases h
          exact ⟨[], a, u, rfl, by rw [hw, hab]; rfl, rfl⟩
  · rintro ⟨p, q, v, rfl, rfl, rfl⟩
    induction p with
    | nil =>
      have hne : Bit.ofBool v ≠ Bit.ofBool (!v) := by cases v <;> simp [Bit.ofBool]
      simp [glue, hne]
    | cons x p ih => simp [glue, ih]

/-! ### Counting positions -/

theorem freeCount_split (p q : Implicant) (x : Bit) :
    (p ++ x :: q).freeCount = p.freeCount + q.freeCount + if x = .dontCare then 1 else 0 := by
  simp only [freeCount, List.count_append, List.count_cons, beq_iff_eq]
  omega

theorem ones_split (p q : Implicant) (x : Bit) :
    (p ++ x :: q).ones = p.ones + q.ones + if x = .one then 1 else 0 := by
  cases x <;> simp [ones, List.filter_append, Nat.add_assoc]

theorem freeCount_cons (x : Bit) (a : Implicant) :
    freeCount (x :: a) = freeCount a + if x = .dontCare then 1 else 0 := by
  simp [freeCount, List.count_cons]

theorem freeCount_free (p q : Implicant) (v : Bool) :
    freeCount (p ++ .dontCare :: q) = freeCount (p ++ Bit.ofBool v :: q) + 1 := by
  simp [freeCount_split]

theorem ones_fix (p q : Implicant) :
    ones (p ++ Bit.ofBool true :: q) = ones (p ++ Bit.ofBool false :: q) + 1 := by
  simp [ones_split, Bit.ofBool]

theorem freeCount_le_length (a : Implicant) : a.freeCount ≤ a.length := List.count_le_length

theorem ones_le_length (a : Implicant) : a.ones ≤ a.length := List.length_filter_le _ _

/-! ### One implicant below another -/

/-- `a` is below `b`: at every position `b` agrees with `a` or leaves the position open. -/
def Below : Implicant → Implicant → Prop
  | [], [] => True
  | x :: a, y :: b => (y = x ∨ y = .dontCare) ∧ Below a b
  | _, _ => False

theorem length_eq_of_below : ∀ {a b : Implicant}, Below a b → a.length = b.length
  | [], [], _ => rfl
  | _ :: _, _ :: _, h => congrArg (· + 1) (length_eq_of_below h.2)

theorem covers_of_below : ∀ {a b : Implicant} {y : List Bool}, Below a b → a.covers y = true →
    b.covers y = true
  | [], [], _, _, hy => hy
  | x :: a, z :: b, v :: y, ⟨hz, h⟩, hy => by
    simp only [covers_cons_cons, Bool.and_eq_true] at hy ⊢
    refine ⟨?_, covers_of_below h hy.2⟩
    rcases hz with rfl | rfl
    · exact hy.1
    · rfl
  | _ :: _, _ :: _, [], _, hy => by simp at hy

theorem below_of_covers : ∀ {a b : Implicant}, a.length = b.length →
    (∀ y, a.covers y = true → b.covers y = true) → Below a b
  | [], [], _, _ => trivial
  | x :: a, z :: b, hlen, h => by
    obtain ⟨y, hy⟩ := exists_covered a
    -- a value the head position admits, extended by a row of the tail, reaches `b`'s head
    have hhead : ∀ v, x.admits v = true → z.admits v = true := fun v hv => by
      have := h (v :: y) (by simp [hv, hy])
      simp only [covers_cons_cons, Bool.and_eq_true] at this
      exact this.1
    have htail : ∀ y', covers a y' = true → covers b y' = true := fun y' hy' => by
      obtain ⟨v, hv⟩ : ∃ v, x.admits v = true := by cases x <;> simp [Bit.admits]
      have := h (v :: y') (by simp [hv, hy'])
      simp only [covers_cons_cons, Bool.and_eq_true] at this
      exact this.2
    refine ⟨?_, below_of_covers (by simpa using hlen) htail⟩
    have h₀ := hhead false
    have h₁ := hhead true
    cases x <;> cases z <;> simp_all [Bit.admits]
  | [], _ :: _, hlen, _ => by simp at hlen
  | _ :: _, [], hlen, _ => by simp at hlen

/-- Of two different implicants one below the other, the lower has a fixed position that can be
freed while staying below. -/
theorem exists_free_of_below : ∀ {a b : Implicant}, Below a b → a ≠ b →
    ∃ p q v, a = p ++ Bit.ofBool v :: q ∧ Below (p ++ .dontCare :: q) b
  | [], [], _, hne => absurd rfl hne
  | x :: a, z :: b, ⟨hz, h⟩, hne => by
    by_cases hzx : z = x
    · subst hzx
      obtain ⟨p, q, v, rfl, hp⟩ := exists_free_of_below h fun e => hne (by rw [e])
      exact ⟨z :: p, q, v, rfl, Or.inl rfl, hp⟩
    · have hdc : z = .dontCare := hz.resolve_left hzx
      obtain ⟨v, rfl⟩ := Bit.exists_eq_ofBool fun e => hzx (hdc.trans e.symm)
      exact ⟨[], a, v, rfl, Or.inl hdc, h⟩

/-! ### Implicants and prime implicants of a set of rows -/

section Minterms

variable {n : Nat} {M : List (List Bool)}

/-- An implicant of the function true exactly on the rows `M`: `n` positions that cover only
rows of `M`. -/
def IsImplicant (n : Nat) (M : List (List Bool)) (a : Implicant) : Prop :=
  a.length = n ∧ ∀ y, a.covers y = true → y ∈ M

/-- A prime implicant: an implicant that no other implicant covers more than. -/
def IsPrime (n : Nat) (M : List (List Bool)) (a : Implicant) : Prop :=
  IsImplicant n M a ∧ ∀ b, IsImplicant n M b → (∀ y, a.covers y = true → b.covers y = true) → b = a

theorem IsImplicant.of_below {a b : Implicant} (hb : IsImplicant n M b) (h : Below a b) :
    IsImplicant n M a :=
  ⟨(length_eq_of_below h).trans hb.1, fun y hy => hb.2 y (covers_of_below h hy)⟩

theorem isImplicant_free_iff {p q : Implicant} (v : Bool) :
    IsImplicant n M (p ++ .dontCare :: q) ↔
      IsImplicant n M (p ++ Bit.ofBool v :: q) ∧ IsImplicant n M (p ++ Bit.ofBool (!v) :: q) := by
  simp only [IsImplicant, List.length_append, List.length_cons, covers_free p q v, Bool.or_eq_true]
  constructor
  · rintro ⟨hn, h⟩
    exact ⟨⟨hn, fun y hy => h y (.inl hy)⟩, ⟨hn, fun y hy => h y (.inr hy)⟩⟩
  · rintro ⟨⟨hn, h₁⟩, ⟨-, h₂⟩⟩
    exact ⟨hn, fun y hy => hy.elim (h₁ y) (h₂ y)⟩

theorem isPrime_iff {a : Implicant} :
    IsPrime n M a ↔ IsImplicant n M a ∧
      ∀ p q v, a = p ++ Bit.ofBool v :: q → ¬ IsImplicant n M (p ++ .dontCare :: q) := by
  constructor
  · rintro ⟨ha, hmax⟩
    refine ⟨ha, ?_⟩
    rintro p q v rfl hfree
    have heq := hmax _ hfree fun y hy => covers_free_of_fixed hy
    exact Bit.ofBool_ne_dontCare v (List.cons.inj (List.append_cancel_left heq)).1.symm
  · rintro ⟨ha, hfree⟩
    refine ⟨ha, fun b hb hcov => ?_⟩
    have hbelow : Below a b := below_of_covers (ha.1.trans hb.1.symm) hcov
    by_contra hne
    obtain ⟨p, q, v, rfl, hpb⟩ := exists_free_of_below hbelow (Ne.symm hne)
    exact hfree p q v rfl (hb.of_below hpb)

theorem exists_prime_above {a : Implicant} (ha : IsImplicant n M a) :
    ∃ b, IsPrime n M b ∧ ∀ y, a.covers y = true → b.covers y = true := by
  by_cases hp : IsPrime n M a
  · exact ⟨a, hp, fun _ hy => hy⟩
  · have hnot : ∃ p q v, a = p ++ Bit.ofBool v :: q ∧ IsImplicant n M (p ++ .dontCare :: q) := by
      by_contra hno
      push Not at hno
      exact hp (isPrime_iff.mpr ⟨ha, hno⟩)
    obtain ⟨p, q, v, hpq, hfree⟩ := hnot
    obtain ⟨b, hb, hcov⟩ := exists_prime_above hfree
    exact ⟨b, hb, fun y hy => hcov y (covers_free_of_fixed (by rwa [hpq] at hy))⟩
termination_by n - a.freeCount
decreasing_by
  -- freeing a position adds a don't-care, and there are at most `n` of them
  have hlen : freeCount (p ++ .dontCare :: q) ≤ n := hfree.1 ▸ freeCount_le_length _
  have hcount := freeCount_free p q v
  rw [hpq]
  omega

/-- Fixing a free position keeps an implicant, so there are implicants with every smaller
number of don't-cares. -/
theorem exists_freeCount_eq {c : Implicant} (hc : IsImplicant n M c) {d : Nat}
    (hd : d ≤ c.freeCount) : ∃ a, IsImplicant n M a ∧ a.freeCount = d := by
  by_cases he : c.freeCount = d
  · exact ⟨c, hc, he⟩
  · obtain ⟨p, q, hpq⟩ := List.append_of_mem (List.count_pos_iff.mp (by
      show 0 < c.freeCount
      omega))
    have hfix := ((isImplicant_free_iff false).mp (hpq ▸ hc)).1
    have hcount := freeCount_free p q false
    exact exists_freeCount_eq hfix (by rw [hpq] at hd he; omega)
termination_by c.freeCount - d
decreasing_by
  have hcount := freeCount_free p q false
  rw [hpq] at hd he ⊢
  omega

theorem IsPrime.exists_neighbours {p q : Implicant} {b : Bool}
    (hp : IsPrime n M (p ++ Bit.ofBool b :: q)) :
    ∃ y₁ y₂, y₁.length = p.length ∧ y₂.length = q.length ∧ y₁ ++ b :: y₂ ∈ M ∧
      y₁ ++ (!b) :: y₂ ∉ M := by
  have hfreelen : (p ++ .dontCare :: q).length = n := by simpa using hp.1.1
  obtain ⟨y, hy, hyM⟩ : ∃ y, covers (p ++ .dontCare :: q) y = true ∧ y ∉ M := by
    by_contra hno
    push Not at hno
    exact (isPrime_iff.mp hp).2 p q b rfl ⟨hfreelen, hno⟩
  obtain ⟨y₁, w, y₂, rfl, hy₁⟩ := exists_split hy
  -- the row outside is covered by the other fixing; its neighbour is covered by the prime
  have hother : covers (p ++ Bit.ofBool (!b) :: q) (y₁ ++ w :: y₂) = true := by
    rw [covers_free p q b, Bool.or_eq_true] at hy
    exact hy.resolve_left fun h => hyM (hp.1.2 _ h)
  rw [covers_split hy₁, Bool.and_eq_true, Bool.and_eq_true, Bit.admits_ofBool, beq_iff_eq] at hother
  obtain ⟨⟨hp₁, rfl⟩, hq₂⟩ := hother
  have hin : y₁ ++ b :: y₂ ∈ M := hp.1.2 _ (by rw [covers_split hy₁]; simp [hp₁, hq₂])
  exact ⟨y₁, y₂, hy₁, (length_eq_of_covers hq₂).symm, hin, by simpa using hyM⟩

theorem IsImplicant.fixed_of_neighbour {a : Implicant} (ha : IsImplicant n M a)
    {y₁ y₂ : List Bool} {b : Bool} (hcov : a.covers (y₁ ++ b :: y₂) = true)
    (hnot : y₁ ++ (!b) :: y₂ ∉ M) : ∃ p q, a = p ++ Bit.ofBool b :: q ∧ p.length = y₁.length := by
  obtain ⟨p, x, q, rfl, hp₁⟩ := exists_split_at (show y₁.length < a.length by
    rw [length_eq_of_covers hcov]
    simp)
  refine ⟨p, q, ?_, hp₁⟩
  rw [covers_split hp₁.symm, Bool.and_eq_true, Bool.and_eq_true] at hcov
  obtain ⟨⟨hp', hx⟩, hq'⟩ := hcov
  cases x with
  | dontCare =>
    -- a free position would cover the neighbour too
    exact absurd (ha.2 _ (by rw [covers_split hp₁.symm]; simp [hp', hq', Bit.admits])) hnot
  | zero =>
    obtain rfl : b = false := by simpa [Bit.admits] using hx
    rfl
  | one =>
    obtain rfl : b = true := by simpa [Bit.admits] using hx
    rfl

theorem exists_prime_covering {y : List Bool} (hy : y ∈ M) (hlen : y.length = n) :
    ∃ a, IsPrime n M a ∧ a.covers y = true := by
  have hmin : IsImplicant n M (ofValues y) :=
    ⟨by simp [ofValues, hlen], fun z hz => by rwa [covers_ofValues.mp hz]⟩
  obtain ⟨a, ha, hcov⟩ := exists_prime_above hmin
  exact ⟨a, ha, hcov y (covers_ofValues.mpr rfl)⟩

end Minterms

/-! ### Sets of implicants -/

theorem cmp_eq_eq_iff {a b : Implicant} : cmp a b = .eq ↔ a = b := by
  induction a generalizing b with
  | nil => cases b <;> simp [cmp]
  | cons x a ih =>
    cases b with
    | nil => simp [cmp]
    | cons y b =>
      simp only [cmp, List.cons.injEq]
      split_ifs with h₁ h₂
      · simp only [false_iff]
        rintro ⟨rfl, -⟩
        omega
      · simp only [false_iff]
        rintro ⟨rfl, -⟩
        omega
      · rw [ih]
        exact ⟨fun h => ⟨Bit.eq_of_rank_eq (by omega), h⟩, fun h => h.2⟩

theorem mem_sortSet {a : Implicant} {l : List Implicant} : a ∈ sortSet l ↔ a ∈ l := by
  unfold sortSet
  rw [← (List.mergeSort_perm l _).mem_iff]
  generalize l.mergeSort _ = m
  induction m with
  | nil => rfl
  | cons x m ih =>
    rw [List.foldr_cons]
    generalize List.foldr _ [] m = acc at ih ⊢
    rcases acc with _ | ⟨b, rest⟩
    · -- nothing kept yet
      simp only [List.not_mem_nil, false_iff] at ih
      simp [ih]
    · simp only
      split_ifs with hxb
      · -- `x` equals the head already kept
        have hx : x = b := cmp_eq_eq_iff.mp (beq_iff_eq.mp hxb)
        rw [ih, List.mem_cons]
        constructor
        · exact Or.inr
        · rintro (rfl | h)
          · exact ih.mp (by rw [hx]; exact List.mem_cons_self)
          · exact h
      · simp only [List.mem_cons] at ih ⊢
        rw [ih]

end Implicant

namespace QuineMcCluskey

open Implicant

/-! ### Groups and rounds -/

theorem mem_groups {current : List Implicant} {width k : Nat} (hw : ∀ a ∈ current, a.ones ≤ width)
    {a : Implicant} :
    a ∈ (groups current width)[k]?.getD [] ↔ a ∈ current ∧ a.ones = k := by
  unfold groups
  -- the fold adds each implicant to the group of its count of ones, all in range
  suffices h : ∀ (l : List Implicant) (acc : Array (List Implicant)), acc.size = width + 1 →
      (∀ b ∈ l, b.ones ≤ width) →
      (a ∈ (l.foldl (fun acc b => acc.modify b.ones (b :: ·)) acc)[k]?.getD [] ↔
        a ∈ acc[k]?.getD [] ∨ (a ∈ l ∧ a.ones = k)) by
    rw [h current _ (by simp) hw]
    by_cases hk : k < width + 1 <;> simp [hk]
  intro l
  induction l with
  | nil => simp
  | cons b l ih =>
    intro acc hsize hl
    rw [List.foldl_cons, ih _ (by simp [hsize]) fun c hc => hl c (List.mem_cons_of_mem b hc)]
    have hb : b.ones < acc.size := by
      have := hl b List.mem_cons_self
      omega
    rw [Array.getElem?_modify]
    by_cases hbk : b.ones = k
    · subst hbk
      simp only [↓reduceIte, Array.getElem?_eq_getElem hb, Option.map_some, Option.getD_some,
        List.mem_cons]
      constructor
      · rintro ((rfl | h) | ⟨h₁, h₂⟩)
        · exact .inr ⟨.inl rfl, rfl⟩
        · exact .inl h
        · exact .inr ⟨.inr h₁, h₂⟩
      · rintro (h | ⟨rfl | h₁, h₂⟩)
        · exact .inl (.inr h)
        · exact .inl (.inl rfl)
        · exact .inr ⟨h₁, h₂⟩
    · simp only [hbk, if_false, List.mem_cons]
      constructor
      · rintro (h | ⟨h₁, h₂⟩)
        · exact .inl h
        · exact .inr ⟨.inr h₁, h₂⟩
      · rintro (h | ⟨rfl | h₁, h₂⟩)
        · exact .inl h
        · exact absurd h₂ hbk
        · exact .inr ⟨h₁, h₂⟩

section Rounds

variable {n : Nat} {M : List (List Bool)}

/-- Round `d` holds exactly the implicants with `d` don't-cares. -/
def Layer (n : Nat) (M : List (List Bool)) (d : Nat) (current : List Implicant) : Prop :=
  ∀ a, a ∈ current ↔ IsImplicant n M a ∧ a.freeCount = d

theorem Layer.ones_le {d width : Nat} {current : List Implicant} (hL : Layer n M d current)
    (hw : n ≤ width) : ∀ a ∈ current, a.ones ≤ width := fun a ha =>
  (ones_le_length a).trans (((hL a).mp ha).1.1 ▸ hw)

theorem Layer.mem_groups {d width : Nat} {current : List Implicant} (hL : Layer n M d current)
    (hw : n ≤ width) (k : Nat) (a : Implicant) :
    a ∈ (groups current width)[k]?.getD [] ↔ a ∈ current ∧ a.ones = k :=
  QuineMcCluskey.mem_groups (hL.ones_le hw)

theorem round_fst {d width : Nat} {current : List Implicant} (hL : Layer n M d current)
    (hw : n ≤ width) : Layer n M (d + 1) (round current width).1 := by
  intro c
  simp only [round, mem_sortSet, List.mem_flatMap, List.mem_range, List.mem_filterMap,
    hL.mem_groups hw]
  constructor
  · rintro ⟨k, -, a, ⟨ha, -⟩, b, ⟨hb, -⟩, hglue⟩
    obtain ⟨p, q, v, rfl, rfl, rfl⟩ := glue_eq_some_iff.mp hglue
    obtain ⟨ha, hda⟩ := (hL _).mp ha
    obtain ⟨hb, -⟩ := (hL _).mp hb
    refine ⟨(isImplicant_free_iff v).mpr ⟨ha, hb⟩, ?_⟩
    simp only [freeCount_split, Bit.ofBool_ne_dontCare, if_true, if_false] at hda ⊢
    omega
  · rintro ⟨hc, hdc⟩
    have hmem : Bit.dontCare ∈ c := List.count_pos_iff.mp (by
      show 0 < c.freeCount
      omega)
    obtain ⟨p, q, rfl⟩ := List.append_of_mem hmem
    -- the two fixings of a free position are in round `d`, one `1` apart
    obtain ⟨ha, hb⟩ := (isImplicant_free_iff false).mp hc
    have hfix : ∀ v, freeCount (p ++ Bit.ofBool v :: q) = d := fun v => by
      have := freeCount_free p q v
      omega
    have hlt : ones (p ++ Bit.ofBool false :: q) < width := by
      have hlen : (p ++ Bit.ofBool true :: q).length = n := hb.1
      have := ones_le_length (p ++ Bit.ofBool true :: q)
      rw [hlen, ones_fix] at this
      omega
    exact ⟨_, hlt, _, ⟨(hL _).mpr ⟨ha, hfix false⟩, rfl⟩, _,
      ⟨(hL _).mpr ⟨hb, hfix true⟩, ones_fix p q⟩, glue_eq_some_iff.mpr ⟨p, q, false, rfl, rfl, rfl⟩⟩

theorem gluesWithSome_iff {d width : Nat} {current : List Implicant} (hL : Layer n M d current)
    (hw : n ≤ width) {a : Implicant} (ha : a ∈ current) :
    (((groups current width)[a.ones + 1]?.getD []).any (fun b => (a.glue b).isSome) ||
      (a.ones != 0 && ((groups current width)[a.ones - 1]?.getD []).any fun b => (b.glue a).isSome)) =
        true ↔
      ∃ p q v, a = p ++ Bit.ofBool v :: q ∧ IsImplicant n M (p ++ .dontCare :: q) := by
  obtain ⟨hia, hfa⟩ := (hL a).mp ha
  simp only [Bool.or_eq_true, Bool.and_eq_true, List.any_eq_true, hL.mem_groups hw,
    Option.isSome_iff_exists, bne_iff_ne, ne_eq]
  constructor
  · rintro (⟨b, ⟨hb, -⟩, c, hc⟩ | ⟨-, b, ⟨hb, -⟩, c, hc⟩)
    · obtain ⟨p, q, v, rfl, rfl, rfl⟩ := glue_eq_some_iff.mp hc
      exact ⟨p, q, v, rfl, (isImplicant_free_iff v).mpr ⟨hia, ((hL _).mp hb).1⟩⟩
    · obtain ⟨p, q, v, rfl, rfl, rfl⟩ := glue_eq_some_iff.mp hc
      exact ⟨p, q, !v, rfl, (isImplicant_free_iff v).mpr ⟨((hL _).mp hb).1, hia⟩⟩
  · rintro ⟨p, q, v, rfl, hfree⟩
    -- the other fixing of the freed position is in the same round
    have hflip : p ++ Bit.ofBool (!v) :: q ∈ current := by
      refine (hL _).mpr ⟨((isImplicant_free_iff v).mp hfree).2, ?_⟩
      rw [← hfa]
      simp [freeCount_split]
    cases v with
    | false =>
      exact .inl ⟨_, ⟨hflip, by simp [ones_split, Bit.ofBool]⟩, p ++ .dontCare :: q,
        glue_eq_some_iff.mpr ⟨p, q, false, rfl, rfl, rfl⟩⟩
    | true =>
      exact .inr ⟨by simp [ones_split, Bit.ofBool], _, ⟨hflip, by simp [ones_split, Bit.ofBool]⟩,
        p ++ .dontCare :: q, glue_eq_some_iff.mpr ⟨p, q, false, rfl, rfl, rfl⟩⟩

theorem round_snd {d width : Nat} {current : List Implicant} (hL : Layer n M d current)
    (hw : n ≤ width) (a : Implicant) :
    a ∈ (round current width).2 ↔ a ∈ current ∧ IsPrime n M a := by
  simp only [round, List.mem_filter, Bool.not_eq_true', Bool.eq_false_iff, ne_eq]
  constructor
  · rintro ⟨ha, hng⟩
    refine ⟨ha, isPrime_iff.mpr ⟨((hL a).mp ha).1, fun p q v hpq hfree => ?_⟩⟩
    exact hng ((gluesWithSome_iff hL hw ha).mpr ⟨p, q, v, hpq, hfree⟩)
  · rintro ⟨ha, hp⟩
    refine ⟨ha, fun hglue => ?_⟩
    obtain ⟨p, q, v, hpq, hfree⟩ := (gluesWithSome_iff hL hw ha).mp hglue
    exact (isPrime_iff.mp hp).2 p q v hpq hfree

theorem rounds_value {width : Nat} (hw : n ≤ width) :
    ∀ (fuel r d : Nat) (current primes : List Implicant), Layer n M d current →
      (∀ a, a ∈ primes ↔ IsPrime n M a ∧ a.freeCount < d) → n < d + fuel →
      ∀ a, a ∈ (rounds width fuel r current primes).value ↔ IsPrime n M a := by
  intro fuel
  induction fuel with
  | zero =>
    intro r d current primes _ hP hfuel a
    rw [rounds, Traced.pure_value, hP]
    exact ⟨fun h => h.1, fun h => ⟨h, (freeCount_le_length a).trans_lt (h.1.1 ▸ hfuel)⟩⟩
  | succ fuel ih =>
    intro r d current primes hL hP hfuel a
    by_cases hempty : current.isEmpty = true
    · -- an empty round: no implicant has `d` or more don't-cares
      have hnil : current = [] := List.isEmpty_iff.mp hempty
      simp only [rounds, hempty, if_true, Traced.pure_value, hP]
      refine ⟨fun h => h.1, fun h => ⟨h, ?_⟩⟩
      by_contra hge
      obtain ⟨b, hb, hbd⟩ := exists_freeCount_eq h.1 (not_lt.mp hge)
      have := (hL b).mpr ⟨hb, hbd⟩
      simp [hnil] at this
    · have hfst := round_fst hL hw
      have hsnd := round_snd hL hw
      rcases hround : round current width with ⟨glued, survivors⟩
      rw [hround] at hfst hsnd
      simp only [rounds, hempty, Bool.false_eq_true, if_false, hround, Traced.bind_value]
      refine ih (r + 1) (d + 1) glued _ hfst (fun b => ?_) (by omega) a
      rw [mem_sortSet, List.mem_append, hP, hsnd, hL]
      constructor
      · rintro (⟨hb, hbd⟩ | ⟨⟨-, hbd⟩, hb⟩)
        · exact ⟨hb, by omega⟩
        · exact ⟨hb, by omega⟩
      · rintro ⟨hb, hbd⟩
        rcases Nat.lt_succ_iff_lt_or_eq.mp hbd with hlt | heq
        · exact .inl ⟨hb, hlt⟩
        · exact .inr ⟨⟨hb.1, heq⟩, hb⟩

theorem eq_ofValues_of_freeCount_eq_zero {a : Implicant} (h : freeCount a = 0) :
    ofValues (a.map (· == .one)) = a := by
  induction a with
  | nil => rfl
  | cons x a ih =>
    rw [freeCount_cons] at h
    have hxd : x ≠ .dontCare := fun e => by simp [e] at h
    have hrest := ih (by simpa [hxd] using h)
    cases x <;> simp_all [ofValues, Bit.ofBool]

theorem freeCount_ofValues (y : List Bool) : freeCount (ofValues y) = 0 := by
  simp [freeCount, ofValues, List.count_eq_zero]

theorem layer_minterms (hM : ∀ y ∈ M, y.length = n) : Layer n M 0 (sortSet (M.map ofValues)) := by
  intro a
  rw [mem_sortSet, List.mem_map]
  constructor
  · rintro ⟨y, hy, rfl⟩
    refine ⟨⟨by simp [ofValues, hM y hy], fun z hz => ?_⟩, ?_⟩
    · rwa [covers_ofValues.mp hz]
    · exact freeCount_ofValues y
  · rintro ⟨ha, h0⟩
    have hcov : a.covers (a.map (· == .one)) = true := by
      rw [← eq_ofValues_of_freeCount_eq_zero h0, covers_ofValues]
      simp [eq_ofValues_of_freeCount_eq_zero h0]
    exact ⟨a.map (· == .one), ha.2 _ hcov, eq_ofValues_of_freeCount_eq_zero h0⟩

end Rounds

theorem le_foldl_max : ∀ (l : List Nat) (acc : Nat), acc ≤ l.foldl max acc ∧ ∀ x ∈ l, x ≤ l.foldl max acc
  | [], _ => ⟨le_rfl, by simp⟩
  | x :: l, acc => by
    obtain ⟨h₁, h₂⟩ := le_foldl_max l (max acc x)
    refine ⟨(le_max_left acc x).trans h₁, fun y hy => ?_⟩
    rcases List.mem_cons.mp hy with rfl | hy
    · exact (le_max_right acc y).trans h₁
    · exact h₂ y hy

theorem mem_primeImplicants {n : Nat} {M : List (List Bool)} (hM : ∀ y ∈ M, y.length = n)
    (a : Implicant) : a ∈ (primeImplicants M).value ↔ IsPrime n M a := by
  cases M with
  | nil =>
    -- no minterm: no implicant at all, and the first round is empty
    have hnone : ¬ IsPrime n [] a := fun h => by
      obtain ⟨y, hy⟩ := exists_covered a
      exact List.not_mem_nil (h.1.2 y hy)
    simp [primeImplicants, rounds, sortSet, hnone]
  | cons y₀ M =>
    have hw : n ≤ ((y₀ :: M).map List.length).foldl max 0 := by
      rw [← hM y₀ List.mem_cons_self]
      exact (le_foldl_max _ 0).2 _ (List.mem_map_of_mem List.mem_cons_self)
    refine rounds_value hw _ 1 0 _ [] (layer_minterms hM) (by simp) (by omega) a

theorem set_split (p q : Implicant) (x y : Bit) : (p ++ x :: q).set p.length y = p ++ y :: q := by
  rw [List.set_append_right _ _ le_rfl, Nat.sub_self, List.set_cons_zero]

theorem not_isImplicant_iff {n : Nat} {M : List (List Bool)} {a : Implicant} (hlen : a.length = n) :
    ¬ IsImplicant n M a ↔ ∃ y, a.covers y = true ∧ y ∉ M := by
  simp [IsImplicant, hlen]

/-- The method returns exactly the implicants of length `n` that cover only rows of `M` and
cover a row outside `M` as soon as any one fixed position is freed. -/
theorem mem_primeImplicants_iff_fixed {n : Nat} {M : List (List Bool)} (hM : ∀ y ∈ M, y.length = n)
    (a : Implicant) :
    a ∈ (primeImplicants M).value ↔
      (a.length = n ∧ ∀ y, a.covers y = true → y ∈ M) ∧
      ∀ (i : Nat) (hi : i < a.length), a[i] ≠ .dontCare →
        ∃ y, covers (a.set i .dontCare) y = true ∧ y ∉ M := by
  rw [mem_primeImplicants hM, isPrime_iff]
  refine and_congr_right fun ha => ?_
  -- a freeing keeps the length `n`
  have hfreelen : ∀ i, (a.set i .dontCare).length = n := fun i => by rw [List.length_set, ha.1]
  constructor
  · intro hfree i hi hfix
    obtain ⟨p, x, q, hpq, rfl⟩ := exists_split_at hi
    have hx : x ≠ .dontCare := by simpa [hpq] using hfix
    obtain ⟨v, rfl⟩ := Bit.exists_eq_ofBool hx
    rw [← not_isImplicant_iff (hfreelen _), hpq, set_split]
    exact hfree p q v hpq
  · rintro hfixed p q v rfl
    have hi : p.length < (p ++ Bit.ofBool v :: q).length := by simp
    have hy := hfixed p.length hi (by simp)
    rw [← not_isImplicant_iff (hfreelen _), set_split] at hy
    exact hy

/-- Over the rows `00`, `01` and `11`, the implicant `0-` is returned: it covers only those rows,
and freeing its `0` would cover `10`. -/
theorem mem_primeImplicants_iff_fixed_consensus :
    (∀ y ∈ [[false, false], [false, true], [true, true]], y.length = 2) ∧
      ([Bit.zero, Bit.dontCare] ∈ (primeImplicants [[false, false], [false, true], [true, true]]).value ↔
        ([Bit.zero, Bit.dontCare].length = 2 ∧ ∀ y, covers [Bit.zero, Bit.dontCare] y = true →
          y ∈ [[false, false], [false, true], [true, true]]) ∧
        ∀ (i : Nat) (hi : i < [Bit.zero, Bit.dontCare].length), [Bit.zero, Bit.dontCare][i] ≠ .dontCare →
          ∃ y, covers ([Bit.zero, Bit.dontCare].set i .dontCare) y = true ∧
            y ∉ [[false, false], [false, true], [true, true]]) :=
  have hM : ∀ y ∈ [[false, false], [false, true], [true, true]], y.length = 2 := by decide
  ⟨hM, mem_primeImplicants_iff_fixed hM [Bit.zero, Bit.dontCare]⟩

end QuineMcCluskey

end PropCalc
