import PropCalc.Formula.Memo
import PropCalc.Formula.Evaluate

namespace PropCalc

def maxVariables : Nat := 24

def bitText (b : Bool) : String := if b then "1" else "0"

/-- The function takes the same value everywhere. -/
structure ConstantFunction where
  value : Bool
deriving DecidableEq

namespace ConstantFunction

def message (e : ConstantFunction) : String := "function always takes one value: " ++ bitText e.value

end ConstantFunction

/-- One row of a truth table: the values of the variables, in column order, and the result. -/
structure Row where
  values : List Bool
  result : Bool
deriving DecidableEq

namespace Row

def index (r : Row) : Nat := r.values.foldl (fun acc b => 2 * acc + (if b then 1 else 0)) 0

def bits (r : Row) : String := String.join (r.values.map bitText)

end Row

/-- A truth table: its variables in increasing order and its rows in increasing order. -/
structure TruthTable where
  columns : VarSet
  rows : List Row
deriving DecidableEq

namespace TruthTable

def bitsOf (n i : Nat) : List Bool := (List.range n).map fun j => i.testBit (n - 1 - j)

def expectValue (r : Except Unbound (Option Bool)) (expectation : String) : ExceptT Panic Traced Bool :=
  match r with
  | .ok (some b) => pure b
  | .ok none => throw (.failed "the fold of the arena lost a result")
  | .error e => throw (.failed (expectation ++ ": " ++ e.message))

/-- Build the table of a formula. Its variables are asked for through the memo, which is
returned updated, and each row is evaluated on the layout. -/
def build (t : Formula) (m : Memo) : ExceptT Panic Traced (Except ConstantFunction TruthTable × Memo) := do
  let (vs, m) ← t.variablesIn m
  let L := t.layout
  if vs.length = 0 then
    let v ← expectValue (L.evaluate fun _ => none)
      "an expression without variables evaluates under the empty assignment"
    ExceptT.lift (Traced.debug .table ("truth table: constant function " ++ bitText v))
    pure (.error ⟨v⟩, m)
  else if maxVariables < vs.length then
    throw (.tooWide vs.length maxVariables)
  else
    let rows ← (List.range (Nat.pow 2 vs.length)).mapM fun i => do
      let values := bitsOf vs.length i
      let result ← expectValue (L.evaluate fun v => (vs.zip values).lookup v)
        "assignment covers every free variable"
      pure (⟨values, result⟩ : Row)
    ExceptT.lift (Traced.debug .table ("truth table: " ++ toString vs.length ++ " variables, " ++
      toString rows.length ++ " rows"))
    pure (.ok ⟨vs, rows⟩, m)

def size (T : TruthTable) : Nat := T.rows.length

def results (T : TruthTable) : List Bool := T.rows.map Row.result

def constantValue? (T : TruthTable) : Option Bool :=
  match T.rows with
  | [] => none
  | r :: rs => if rs.all (fun s => s.result == r.result) then some r.result else none

def isConstant (T : TruthTable) : Bool := T.constantValue?.isSome

def satisfying (T : TruthTable) : List Row := T.rows.filter Row.result

def falsifying (T : TruthTable) : List Row := T.rows.filter fun r => !r.result

def assignmentOf (T : TruthTable) (r : Row) : List (Var × Bool) := T.columns.zip r.values

def render (T : TruthTable) : String :=
  String.join (T.columns.map fun v => v.text ++ " ") ++ "F\n" ++
    String.join (T.rows.map fun r => String.join (r.values.map fun b => bitText b ++ " ") ++ bitText r.result ++ "\n")

end TruthTable

end PropCalc
