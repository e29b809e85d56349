namespace PropCalc

/-- The token classes of the propositional language. -/
inductive Tag where
  | operator
  | constant
  | var
deriving DecidableEq, Repr

namespace Tag

def name : Tag → String
  | operator => "Operator"
  | constant => "Constant"
  | var => "Variable"

def ofName? : String → Option Tag
  | "Operator" => some operator
  | "Constant" => some constant
  | "Variable" => some var
  | _ => none

end Tag

structure Token (τ : Type) where
  lexeme : String
  tag : τ
deriving DecidableEq

end PropCalc
