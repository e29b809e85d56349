import Mathlib
import PropCalc.Proofs.Tables

namespace PropCalc

namespace Zhegalkin

/-! ### Columns of functions -/

/-- The exclusive or of a list of values. -/
def parity (l : List Bool) : Bool := l.foldr (· != ·) false

@[simp] theorem parity_nil : parity [] = false := rfl

@[simp] theorem parity_cons (b : Bool) (l : List Bool) : parity (b :: l) = (b != parity l) := rfl

theorem parity_append (l₁ l₂ : List Bool) : parity (l₁ ++ l₂) = (parity l₁ != parity l₂) := by
  induction l₁ with
  | nil => simp
  | cons b l ih => simp [ih]

theorem parity_filter {α : Type} (p g : α → Bool) (l : List α) :
    parity ((l.filter p).map g) = parity (l.map fun a => p a && g a) := by
  induction l with
  | nil => rfl
  | cons a l ih => cases h : p a <;> simp [h, ih]

/-- The values of a function of `m` values at every list of `m` values, in the order of a
table's rows. -/
def column (m : Nat) (f : List Bool → Bool) : List Bool :=
  (List.range (2 ^ m)).map fun i => f (TruthTable.bitsOf m i)

@[simp] theorem length_column (m : Nat) (f : List Bool → Bool) : (column m f).length = 2 ^ m := by
  simp [column]

theorem column_zero (f : List Bool → Bool) : column 0 f = [f []] := rfl

theorem column_succ (m : Nat) (f : List Bool → Bool) :
    column (m + 1) f = column m (fun x => f (false :: x)) ++ column m (fun x => f (true :: x)) := by
  rw [column, Nat.pow_succ, Nat.mul_two, List.range_add, List.map_append, List.map_map]
  congr 1
  · refine List.map_congr_left fun i hi => ?_
    rw [TruthTable.bitsOf_succ, Nat.testBit_lt_two_pow (List.mem_range.mp hi)]
  · refine List.map_congr_left fun i hi => ?_
    have hlow : i.testBit m = false := Nat.testBit_lt_two_pow (List.mem_range.mp hi)
    simp only [Function.comp_apply]
    rw [TruthTable.bitsOf_succ, Nat.testBit_two_pow_add_eq, hlow, TruthTable.bitsOf_two_pow_add]
    rfl

theorem zipWith_column (m : Nat) (f g : List Bool → Bool) :
    List.zipWith (· != ·) (column m f) (column m g) = column m fun x => f x != g x := by
  simp [column, List.zipWith_map, List.zipWith_self]

/-- The exclusive or of a function over all lists of `m` values. -/
def xorSum (m : Nat) (f : List Bool → Bool) : Bool := parity (column m f)

@[simp] theorem xorSum_zero (f : List Bool → Bool) : xorSum 0 f = f [] := by
  simp [xorSum, column_zero]

theorem xorSum_succ (m : Nat) (f : List Bool → Bool) :
    xorSum (m + 1) f = (xorSum m (fun x => f (false :: x)) != xorSum m (fun x => f (true :: x))) := by
  rw [xorSum, column_succ, parity_append]
  rfl

theorem xorSum_bne (m : Nat) (f g : List Bool → Bool) :
    xorSum m (fun x => f x != g x) = (xorSum m f != xorSum m g) := by
  induction m generalizing f g with
  | zero => simp
  | succ m ih =>
    simp only [xorSum_succ, ih]
    generalize xorSum m (fun x => f (false :: x)) = a
    generalize xorSum m (fun x => f (true :: x)) = b
    generalize xorSum m (fun x => g (false :: x)) = c
    generalize xorSum m (fun x => g (true :: x)) = d
    cases a <;> cases b <;> cases c <;> cases d <;> rfl

@[simp] theorem xorSum_false (m : Nat) : xorSum m (fun _ => false) = false := by
  induction m with
  | zero => simp
  | succ m ih => simp [xorSum_succ, ih]

/-! ### The Möbius transform -/

/-- Whether every position true in `z` is true in `y`. -/
def below : List Bool → List Bool → Bool
  | a :: z, b :: y => (!a || b) && below z y
  | _, _ => true

/-- The coefficient of monomial `z` in the polynomial of `f`: the exclusive or of `f` over the
lists below `z`. -/
def mobius (m : Nat) (f : List Bool → Bool) (z : List Bool) : Bool :=
  xorSum m fun w => below w z && f w

theorem mobius_false_cons (m : Nat) (f : List Bool → Bool) (y : List Bool) :
    mobius (m + 1) f (false :: y) = mobius m (fun x => f (false :: x)) y := by
  simp [mobius, xorSum_succ, below]

theorem mobius_true_cons (m : Nat) (f : List Bool → Bool) (y : List Bool) :
    mobius (m + 1) f (true :: y) =
      (mobius m (fun x => f (false :: x)) y != mobius m (fun x => f (true :: x)) y) := by
  simp [mobius, xorSum_succ, below]

theorem mobius_bne (m : Nat) (f g : List Bool → Bool) (y : List Bool) :
    mobius m (fun x => f x != g x) y = (mobius m f y != mobius m g y) := by
  unfold mobius
  rw [← xorSum_bne]
  congr 1
  funext w
  cases below w y <;> simp

theorem mobius_mobius (m : Nat) (f : List Bool → Bool) {x : List Bool} (hx : x.length = m) :
    mobius m (mobius m f) x = f x := by
  induction m generalizing f x with
  | zero =>
    rw [List.length_eq_zero_iff.mp hx]
    simp [mobius, below]
  | succ m ih =>
    obtain ⟨b, x, rfl⟩ := List.exists_cons_of_length_eq_add_one hx
    have hlen : x.length = m := by simpa using hx
    -- the coefficients of the halves of `f` are the halves of its coefficients
    have h₀ : (fun w => mobius (m + 1) f (false :: w)) = mobius m (fun w => f (false :: w)) :=
      funext (mobius_false_cons m f)
    have h₁ : (fun w => mobius (m + 1) f (true :: w)) =
        fun w => mobius m (fun w => f (false :: w)) w != mobius m (fun w => f (true :: w)) w :=
      funext (mobius_true_cons m f)
    cases b with
    | false => rw [mobius_false_cons, h₀, ih _ hlen]
    | true =>
      rw [mobius_true_cons, h₀, h₁, mobius_bne, ih _ hlen, ih _ hlen]
      simp

/-! ### Positions a function ignores -/

/-- On lists of `m` values, `f` does not look at position `k`. -/
def Ignores (m k : Nat) (f : List Bool → Bool) : Prop :=
  ∀ y₁ y₂ : List Bool, y₁.length = k → k + 1 + y₂.length = m →
    f (y₁ ++ false :: y₂) = f (y₁ ++ true :: y₂)

theorem Ignores.cons {m k : Nat} {f : List Bool → Bool} (h : Ignores (m + 1) (k + 1) f) (b : Bool) :
    Ignores m k fun x => f (b :: x) :=
  fun y₁ y₂ h₁ h₂ => h (b :: y₁) y₂ (by simp [h₁]) (by omega)

theorem xorSum_congr {m : Nat} {f g : List Bool → Bool} (h : ∀ x, x.length = m → f x = g x) :
    xorSum m f = xorSum m g := by
  unfold xorSum column
  congr 1
  exact List.map_congr_left fun i _ => h _ (TruthTable.length_bitsOf m i)

theorem mobius_congr {m : Nat} {f g : List Bool → Bool} (h : ∀ x, x.length = m → f x = g x)
    (z : List Bool) : mobius m f z = mobius m g z :=
  xorSum_congr fun x hx => by rw [h x hx]

theorem mobius_eq_false_of_ignores : ∀ (k m : Nat) (f : List Bool → Bool), Ignores m k f →
    ∀ z : List Bool, z.length = m → z[k]? = some true → mobius m f z = false
  | _, 0, _, _, z, hz, hk => by
    rw [List.length_eq_zero_iff.mp hz] at hk
    simp at hk
  | 0, m + 1, f, hf, b :: z, hz, hk => by
    obtain rfl : b = true := by simpa using hk
    -- the two halves of `f` agree, so the coefficient cancels
    have h : mobius m (fun x => f (false :: x)) z = mobius m (fun x => f (true :: x)) z :=
      mobius_congr (fun x hx => hf [] x rfl (by omega)) z
    rw [mobius_true_cons, h]
    simp
  | k + 1, m + 1, f, hf, b :: z, hz, hk => by
    have hz' : z.length = m := by simpa using hz
    have hk' : z[k]? = some true := by simpa using hk
    have h₀ := mobius_eq_false_of_ignores k m _ (hf.cons false) z hz' hk'
    have h₁ := mobius_eq_false_of_ignores k m _ (hf.cons true) z hz' hk'
    cases b
    · rw [mobius_false_cons, h₀]
    · rw [mobius_true_cons, h₀, h₁]
      rfl
  | _, _ + 1, _, _, [], hz, _ => by simp at hz

theorem ignores_mobius : ∀ (k m : Nat) (g : List Bool → Bool),
    (∀ z : List Bool, z.length = m → z[k]? = some true → g z = false) → Ignores m k (mobius m g)
  | _, 0, _, _ => fun _ _ _ h => by omega
  | 0, m + 1, g, hg => by
    intro y₁ y₂ h₁ h₂
    rw [List.length_eq_zero_iff.mp h₁]
    -- the half with the first bit set has no coefficients
    have hhalf : mobius m (fun x => g (true :: x)) y₂ = false := by
      rw [mobius_congr (g := fun _ => false) (fun x hx => hg (true :: x) (by simp [hx]) rfl) y₂]
      simp [mobius]
    show mobius (m + 1) g (false :: y₂) = mobius (m + 1) g (true :: y₂)
    rw [mobius_false_cons, mobius_true_cons, hhalf, Bool.bne_false]
  | k + 1, m + 1, g, hg => by
    intro y₁ y₂ h₁ h₂
    obtain ⟨c, y₁, rfl⟩ := List.exists_cons_of_length_eq_add_one h₁
    have hy₁ : y₁.length = k := by simpa using h₁
    have hhalf : ∀ b, ∀ z : List Bool, z.length = m → z[k]? = some true → g (b :: z) = false :=
      fun b z hz hk => hg (b :: z) (by simp [hz]) (by simpa using hk)
    have ih₀ := ignores_mobius k m _ (hhalf false) y₁ y₂ hy₁ (by omega)
    have ih₁ := ignores_mobius k m _ (hhalf true) y₁ y₂ hy₁ (by omega)
    simp only [List.cons_append]
    cases c
    · rw [mobius_false_cons, mobius_false_cons, ih₀]
    · rw [mobius_true_cons, mobius_true_cons, ih₀, ih₁]

theorem exists_mobius_iff_not_ignores (m k : Nat) (f : List Bool → Bool) :
    (∃ z : List Bool, z.length = m ∧ mobius m f z = true ∧ z[k]? = some true) ↔ ¬ Ignores m k f := by
  constructor
  · rintro ⟨z, hz, hc, hk⟩ hign
    rw [mobius_eq_false_of_ignores _ _ _ hign z hz hk] at hc
    exact Bool.false_ne_true hc
  · intro hnot
    by_contra hno
    push Not at hno
    -- with no coefficient at bit `k`, the transform back ignores position `k`
    have hvan : ∀ z : List Bool, z.length = m → z[k]? = some true → mobius m f z = false :=
      fun z hz hk => Bool.eq_false_iff.mpr fun hc => hno z hz hc hk
    apply hnot
    intro y₁ y₂ h₁ h₂
    have hback := ignores_mobius _ _ _ hvan y₁ y₂ h₁ h₂
    have hlen : ∀ b, (y₁ ++ b :: y₂).length = m := fun b => by
      simp
      omega
    rwa [mobius_mobius _ _ (hlen false), mobius_mobius _ _ (hlen true)] at hback

/-! ### The difference triangle -/

theorem differences_eq_zipWith : ∀ l : List Bool, differences l = List.zipWith (· != ·) l l.tail
  | a :: b :: rest => by
    rw [differences, differences_eq_zipWith (b :: rest)]
    rfl
  | [_] => rfl
  | [] => rfl

theorem differences_zipWith : ∀ x y : List Bool,
    differences (List.zipWith (· != ·) x y) =
      List.zipWith (· != ·) (differences x) (differences y)
  | a :: a' :: x, b :: b' :: y => by
    have ih := differences_zipWith (a' :: x) (b' :: y)
    simp only [List.zipWith_cons_cons, differences] at ih ⊢
    rw [ih]
    cases a <;> cases a' <;> cases b <;> cases b' <;> rfl
  | [], _ => by simp [differences]
  | [_], _ => by cases ‹List Bool› <;> simp [differences]
  | _ :: _ :: _, [] => by simp [differences]
  | _ :: _ :: _, [_] => by simp [differences]

theorem differences_drop (d : Nat) (l : List Bool) : differences (l.drop d) = (differences l).drop d := by
  induction d generalizing l with
  | zero => rfl
  | succ d ih =>
    match l with
    | [] => simp [differences]
    | [_] => simp [differences]
    | a :: b :: rest =>
      rw [List.drop_succ_cons, ih, differences, List.drop_succ_cons]

theorem iterate_differences_zipWith (j : Nat) (x y : List Bool) :
    differences^[j] (List.zipWith (· != ·) x y) =
      List.zipWith (· != ·) (differences^[j] x) (differences^[j] y) := by
  induction j generalizing x y with
  | zero => rfl
  | succ j ih => rw [Function.iterate_succ_apply, differences_zipWith, ih, Function.iterate_succ_apply,
      Function.iterate_succ_apply]

theorem iterate_differences_drop (j d : Nat) (l : List Bool) :
    differences^[j] (l.drop d) = (differences^[j] l).drop d := by
  induction j generalizing l with
  | zero => rfl
  | succ j ih => rw [Function.iterate_succ_apply, differences_drop, ih, Function.iterate_succ_apply]

theorem zipWith_bne_cancel : ∀ (x y z : List Bool), z.length ≤ y.length →
    List.zipWith (· != ·) (List.zipWith (· != ·) x y) (List.zipWith (· != ·) y z) =
      List.zipWith (· != ·) x z
  | a :: x, b :: y, c :: z, h => by
    simp only [List.zipWith_cons_cons, List.length_cons] at h ⊢
    rw [zipWith_bne_cancel x y z (by omega)]
    cases a <;> cases b <;> cases c <;> rfl
  | [], _, _, _ => by simp
  | _ :: _, [], z, h => by
    have : z = [] := List.eq_nil_of_length_eq_zero (by simpa using h)
    simp [this]
  | _ :: _, _ :: _, [], _ => by simp

theorem iterate_differences_two_pow (k : Nat) (l : List Bool) :
    differences^[2 ^ k] l = List.zipWith (· != ·) l (l.drop (2 ^ k)) := by
  induction k generalizing l with
  | zero => rw [pow_zero, Function.iterate_one, differences_eq_zipWith, List.drop_one]
  | succ k ih =>
    rw [pow_succ, Nat.mul_two, Function.iterate_add_apply, ih l, iterate_differences_zipWith,
      iterate_differences_drop, ih l, List.drop_zipWith, List.drop_drop]
    refine zipWith_bne_cancel _ _ _ ?_
    rw [List.length_drop, List.length_drop]
    generalize 2 ^ k = N
    omega

theorem take_differences : ∀ (l : List Bool) (k : Nat),
    (differences l).take k = differences (l.take (k + 1))
  | _ :: _ :: _, 0 => by simp [differences]
  | a :: b :: rest, k + 1 => by
    rw [differences, List.take_succ_cons, take_differences (b :: rest) k]
    simp [differences, List.take_succ_cons]
  | [_], _ => by simp [differences]
  | [], _ => by simp [differences]

theorem take_iterate_differences (j k : Nat) (l : List Bool) :
    (differences^[j] l).take k = differences^[j] (l.take (k + j)) := by
  induction j generalizing l with
  | zero => rfl
  | succ j ih =>
    rw [Function.iterate_succ_apply, ih, take_differences, Function.iterate_succ_apply]
    rfl

theorem headD_iterate_append {A B : List Bool} {j : Nat} (hj : j < A.length) :
    (differences^[j] (A ++ B)).headD false = (differences^[j] A).headD false := by
  have hlead : ∀ l : List Bool,
      (differences^[j] l).headD false = (differences^[j] (l.take (1 + j))).headD false := by
    intro l
    rw [← take_iterate_differences j 1 l]
    cases differences^[j] l <;> rfl
  rw [hlead, hlead A, List.take_append_of_le_length (by omega)]

theorem iterate_differences_append {A B : List Bool} {k : Nat} (hA : A.length = 2 ^ k)
    (hB : B.length = 2 ^ k) : differences^[2 ^ k] (A ++ B) = List.zipWith (· != ·) A B := by
  have h : List.zipWith (· != ·) (A ++ B) (B ++ []) =
      List.zipWith (· != ·) A B ++ List.zipWith (· != ·) B [] :=
    List.zipWith_append (by rw [hA, hB])
  rw [iterate_differences_two_pow, List.drop_left' hA]
  simpa using h

theorem coefficients_eq_leading (l : List Bool) :
    coefficients l = (List.range l.length).map fun j => (differences^[j] l).headD false := by
  induction l using coefficients.induct with
  | case1 => simp [coefficients]
  | case2 a rest ih =>
    rw [coefficients, ih, length_differences, List.length_cons, List.range_succ_eq_map,
      List.map_cons, List.map_map]
    rfl

/-- The triangle of two halves of length `2 ^ k` leads with the triangle of the first half,
then the triangle of their exclusive or. -/
theorem coefficients_append {A B : List Bool} {k : Nat} (hA : A.length = 2 ^ k)
    (hB : B.length = 2 ^ k) :
    coefficients (A ++ B) = coefficients A ++ coefficients (List.zipWith (· != ·) A B) := by
  have hAB : (A ++ B).length = 2 ^ k + 2 ^ k := by simp [hA, hB]
  have hZ : (List.zipWith (· != ·) A B).length = 2 ^ k := by simp [hA, hB]
  rw [coefficients_eq_leading, coefficients_eq_leading A, coefficients_eq_leading (List.zipWith _ A B),
    hAB, hA, hZ, List.range_add, List.map_append, List.map_map]
  congr 1
  · exact List.map_congr_left fun j hj => headD_iterate_append (by rw [hA]; exact List.mem_range.mp hj)
  · refine List.map_congr_left fun j _ => ?_
    simp only [Function.comp_apply]
    rw [show 2 ^ k + j = j + 2 ^ k from Nat.add_comm _ _, Function.iterate_add_apply,
      iterate_differences_append hA hB]

theorem coefficients_column (m : Nat) (f : List Bool → Bool) :
    coefficients (column m f) = column m (mobius m f) := by
  induction m generalizing f with
  | zero => simp [column_zero, coefficients, differences, mobius, below]
  | succ m ih =>
    rw [column_succ, coefficients_append (length_column _ _) (length_column _ _), zipWith_column, ih,
      ih, column_succ]
    congr 1
    · congr 1
      funext x
      exact (mobius_false_cons m f x).symm
    · congr 1
      funext x
      rw [mobius_true_cons, mobius_bne]

end Zhegalkin

end PropCalc
