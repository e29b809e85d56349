import PropCalc.Formula.Layout

namespace PropCalc

abbrev Assignment := Var → Option Bool

/-- Evaluation failed: the variable has no value. -/
structure Unbound where
  var : Var

namespace Unbound

def message (e : Unbound) : String := "no value for variable " ++ e.var.text

end Unbound

namespace Shape

def evalStep (σ : Assignment) : Shape Bool → Except Unbound Bool
  | const b => .ok b
  | var v => match σ v with
    | some b => .ok b
    | none => .error ⟨v⟩
  | neg a => .ok (!a)
  | bin op a b => .ok (op.apply a b)

end Shape

namespace Layout

def evaluate (L : Layout) (σ : Assignment) : Except Unbound (Option Bool) :=
  L.tryCollapse (Shape.evalStep σ)

end Layout

namespace Formula

def evaluate (t : Formula) (σ : Assignment) : Except Unbound (Option Bool) := t.layout.evaluate σ

end Formula

end PropCalc
