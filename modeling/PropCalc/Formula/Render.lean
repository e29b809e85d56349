import PropCalc.Formula.Layout

namespace PropCalc

/-- Where a subformula stands, as far as parentheses are concerned. -/
inductive Place where
  | top
  | operand (outer : Nat)
  | right (outer : Nat)
deriving DecidableEq

namespace Place

/-- Whether a subformula of precedence `own` needs parentheses here. -/
def wraps : Place → Nat → Bool
  | top, _ => false
  | operand outer, own => decide (own < outer)
  | right outer, own => decide (own ≤ outer)

end Place

namespace Formula

def renderAt : Place → Formula → String
  | place, t =>
    let body := match t with
      | const b => if b then "1" else "0"
      | var v => v.text
      | neg a => "-" ++ renderAt (.operand 4) a
      | bin op a b =>
        renderAt (.operand op.precedence) a ++ " " ++ op.symbol ++ " " ++
          renderAt (.right op.precedence) b
    if place.wraps t.precedence then "(" ++ body ++ ")" else body

def render (t : Formula) : String := renderAt .top t

def treeText : Formula → String
  | const b => if b then "1" else "0"
  | var v => v.text
  | neg a => "NOT(" ++ a.treeText ++ ")"
  | bin op a b => op.name ++ "(" ++ a.treeText ++ ", " ++ b.treeText ++ ")"

end Formula

namespace Layout

def placeOf (L : Layout) (i : Nat) : Place :=
  match L.parents[i]? with
  | some (some p) =>
    match L.nodes[p]? with
    | some (.bin op _ r) => if r = i then .right op.precedence else .operand op.precedence
    | some (.neg _) => .operand 4
    | _ => .top
  | _ => .top

def needsParens (L : Layout) (i : Nat) : Bool :=
  match L.nodes[i]? with
  | some node => (L.placeOf i).wraps node.precedence
  | none => false

end Layout

end PropCalc
