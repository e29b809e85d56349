import PropCalc.Formula.Layout

namespace PropCalc

/-- How a graph is drawn. -/
structure DotStyle where
  operatorShape : String := "circle"
  leafShape : String := "square"
  edgeStyle : String := "solid"
  labelSides : Bool := true
  useSymbols : Bool := false

namespace Dot

def escape (label : String) : String :=
  String.join (label.toList.map fun c =>
    if c = '\\' then "\\\\" else if c = '"' then "\\\"" else c.toString)

/-- The declaration of an operator node, if the node is one. -/
def operatorLine (style : DotStyle) (i : Nat) : Node → Option String
  | .neg _ => some ("n" ++ toString i ++ " [label=\"" ++ escape (if style.useSymbols then "-" else "NOT") ++ "\"];\n")
  | .bin op _ _ => some ("n" ++ toString i ++ " [label=\"" ++
      escape (if style.useSymbols then op.symbol else op.name) ++ "\"];\n")
  | _ => none

def leafLine (style : DotStyle) (i : Nat) : Node → Option String
  | .const b => some ("n" ++ toString i ++ " [shape=" ++ style.leafShape ++ ", label=\"" ++
      (if b then "1" else "0") ++ "\"];\n")
  | .var v => some ("n" ++ toString i ++ " [shape=" ++ style.leafShape ++ ", label=\"" ++ v.text ++ "\"];\n")
  | _ => none

def edge (style : DotStyle) (i j : Nat) (side : Option String) : String :=
  "n" ++ toString i ++ " -> n" ++ toString j ++ " [style=" ++ style.edgeStyle ++
    (match side with
     | some s => if style.labelSides then ", label=\"" ++ s ++ "\"" else ""
     | none => "") ++ "];\n"

def edges (style : DotStyle) (i : Nat) : Node → String
  | .neg a => edge style i a none
  | .bin _ a b => edge style i a (some "L") ++ edge style i b (some "R")
  | _ => ""

end Dot

namespace Formula

def dot (t : Formula) (style : DotStyle := {}) : String :=
  let nodes := t.layout.nodes.zipIdx
  "digraph \x7b\n" ++ "node [shape=" ++ style.operatorShape ++ "];\n" ++
    String.join (nodes.filterMap fun p => Dot.operatorLine style p.2 p.1) ++
    "\x7b rank=sink\n" ++
    String.join (nodes.filterMap fun p => Dot.leafLine style p.2 p.1) ++
    "\x7d\n" ++
    String.join (nodes.map fun p => Dot.edges style p.2 p.1) ++
    "\x7d\n"

end Formula

end PropCalc
