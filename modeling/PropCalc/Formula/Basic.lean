import PropCalc.Formula.Var
import PropCalc.Formula.Connective

namespace PropCalc

/-- A propositional formula. -/
inductive Formula where
  | const (value : Bool)
  | var (v : Var)
  | neg (a : Formula)
  | bin (op : Connective) (a b : Formula)
deriving DecidableEq

namespace Formula

/-- A variable or its negation: `literal v true` is `v`, `literal v false` is `-v`. -/
def literal (v : Var) (positive : Bool) : Formula :=
  if positive then var v else neg (var v)

/-- Left-nested application of one connective to a list: `((x₁ op x₂) op x₃) …`.
An empty list has no such formula. -/
def chain (op : Connective) : List Formula → Option Formula
  | [] => none
  | x :: xs => some (xs.foldl (bin op) x)

def children : Formula → List Formula
  | const _ | var _ => []
  | neg a => [a]
  | bin _ a b => [a, b]

def arity : Formula → Nat
  | const _ | var _ => 0
  | neg _ => 1
  | bin _ _ _ => 2

def size : Formula → Nat
  | const _ | var _ => 1
  | neg a => a.size + 1
  | bin _ a b => a.size + b.size + 1

def precedence : Formula → Nat
  | const _ | var _ => 5
  | neg _ => 4
  | bin op _ _ => op.precedence

def vars : Formula → VarSet
  | const _ => []
  | var v => [v]
  | neg a => a.vars
  | bin _ a b => VarSet.union a.vars b.vars

def value (ρ : Var → Bool) : Formula → Bool
  | const b => b
  | var v => ρ v
  | neg a => !a.value ρ
  | bin op a b => op.apply (a.value ρ) (b.value ρ)

theorem size_pos (t : Formula) : 0 < t.size := by
  cases t <;> simp [size]

theorem arity_eq_length_children (t : Formula) : t.arity = t.children.length := by
  cases t <;> rfl

def sizes : List Formula → Nat
  | [] => 0
  | t :: ts => t.size + sizes ts

theorem sizes_append (xs ys : List Formula) : sizes (xs ++ ys) = sizes xs + sizes ys := by
  induction xs with
  | nil => exact (Nat.zero_add _).symm
  | cons x xs ih =>
    show x.size + sizes (xs ++ ys) = x.size + sizes xs + sizes ys
    rw [ih, Nat.add_assoc]

theorem size_eq_children (t : Formula) : t.size = sizes t.children + 1 := by
  cases t <;> rfl

end Formula

end PropCalc
