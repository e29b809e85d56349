import PropCalc.Table

namespace PropCalc

namespace TruthTable

/-- The clause of a row: the variables joined by `op`, each negated where its value is
`negatedAt`. A table without columns has no clause, which fails its expectation. -/
def clause (T : TruthTable) (r : Row) (op : Connective) (negatedAt : Bool) : Except Panic Formula :=
  match Formula.chain op ((T.columns.zip r.values).map fun p => Formula.literal p.1 (p.2 != negatedAt)) with
  | some f => .ok f
  | none => .error (.failed "a non-constant table has at least one variable")

def fullDisjunctive (T : TruthTable) : Except Panic (Option Formula) := do
  let minterms ← T.satisfying.mapM fun r => T.clause r .and false
  pure (Formula.chain .or minterms)

def fullConjunctive (T : TruthTable) : Except Panic (Option Formula) := do
  let maxterms ← T.falsifying.mapM fun r => T.clause r .or true
  pure (Formula.chain .and maxterms)

end TruthTable

end PropCalc
