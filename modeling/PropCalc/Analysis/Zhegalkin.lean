import PropCalc.Table

namespace PropCalc

namespace Zhegalkin

def differences : List Bool → List Bool
  | a :: b :: rest => (a != b) :: differences (b :: rest)
  | _ => []

theorem length_differences (a : Bool) (rest : List Bool) :
    (differences (a :: rest)).length = rest.length := by
  induction rest generalizing a with
  | nil => rfl
  | cons b rest ih => simp [differences, ih]

def coefficients : List Bool → List Bool
  | [] => []
  | a :: rest => a :: coefficients (differences (a :: rest))
termination_by l => l.length
decreasing_by simp [length_differences]

def monomial (vs : VarSet) (i : Nat) : Formula :=
  let n := vs.length
  (Formula.chain .and ((vs.zipIdx.filter fun p => i.testBit (n - 1 - p.2)).map fun p => .var p.1)).getD
    (.const true)

end Zhegalkin

namespace TruthTable

def coefficients (T : TruthTable) : List Bool := Zhegalkin.coefficients T.results

/-- The Zhegalkin polynomial; a table whose coefficients are all `0` has none. -/
def polynomial (T : TruthTable) : Option Formula :=
  Formula.chain .xor ((T.coefficients.zipIdx.filter (·.1)).map fun p => Zhegalkin.monomial T.columns p.2)

end TruthTable

end PropCalc
