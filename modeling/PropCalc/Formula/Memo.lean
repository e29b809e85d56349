import PropCalc.Formula.Layout
import PropCalc.Journal

namespace PropCalc

/-- The variable sets computed so far, each in the slot of its node. -/
structure Memo where
  slots : List (Nat × VarSet) := []
deriving DecidableEq

namespace Memo

def slot (m : Memo) (i : Nat) : Option VarSet := m.slots.lookup i

def getOrInit (m : Memo) (i : Nat) (vs : VarSet) : VarSet × Memo :=
  match m.slot i with
  | some ws => (ws, m)
  | none => (vs, ⟨(i, vs) :: m.slots⟩)

def hitMessage (i : Nat) : String := "variables_of(Idx(" ++ toString i ++ ")): cached"

/-- The variables of the subtree at node `i`: the set in its slot, leaving a trace record, or
else the union of its children's, asked left before right and stored in its slot. Each nested
call takes one unit of `depth`; running out is the overflow of a walk that never ends. -/
def walk (nodes : List Node) : Nat → Memo → Nat → ExceptT Panic Traced (VarSet × Memo)
  | 0, _, _ => throw (.failed "stack overflow")
  | depth + 1, m, i =>
    match m.slot i with
    | some vs => do
      ExceptT.lift (Traced.trace .eval (hitMessage i))
      pure (vs, m)
    | none => do
      let (vs, m) ← match nodes[i]? with
        | none => throw (.failed ("index out of bounds: the len is " ++ toString nodes.length ++
            " but the index is " ++ toString i))
        | some (.const _) => pure ([], m)
        | some (.var v) => pure ([v], m)
        | some (.neg a) => walk nodes depth m a
        | some (.bin _ a b) => do
          let (va, m) ← walk nodes depth m a
          let (vb, m) ← walk nodes depth m b
          pure (va.union vb, m)
      pure (m.getOrInit i vs)

end Memo

namespace Formula

def variablesOf (t : Formula) (m : Memo) (i : Nat) : ExceptT Panic Traced (VarSet × Memo) :=
  Memo.walk t.layout.nodes t.layout.size m i

def variablesIn (t : Formula) (m : Memo) : ExceptT Panic Traced (VarSet × Memo) := t.variablesOf m 0

def isConstantIn (t : Formula) (m : Memo) : ExceptT Panic Traced (Bool × Memo) := do
  let (vs, m') ← t.variablesIn m
  pure (vs.isEmpty, m')

end Formula

end PropCalc
