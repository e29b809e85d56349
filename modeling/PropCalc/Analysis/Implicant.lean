import PropCalc.Formula.Basic

namespace PropCalc

/-- One position of an implicant. -/
inductive Bit where
  | zero
  | one
  | dontCare
deriving DecidableEq, Repr

namespace Bit

def ofBool (b : Bool) : Bit := if b then one else zero

def char : Bit → Char
  | zero => '0'
  | one => '1'
  | dontCare => '-'

def ofChar? : Char → Option Bit
  | '0' => some zero
  | '1' => some one
  | '-' => some dontCare
  | _ => none

def rank : Bit → Nat
  | zero => 0
  | one => 1
  | dontCare => 2

def admits : Bit → Bool → Bool
  | zero, v => !v
  | one, v => v
  | dontCare, _ => true

end Bit

abbrev Implicant := List Bit

namespace Implicant

def ofValues (values : List Bool) : Implicant := values.map Bit.ofBool

def text (a : Implicant) : String := String.ofList (a.map Bit.char)

def ones (a : Implicant) : Nat := (a.filter (· = .one)).length

/-- The order of implicants: position by position, then shorter first. -/
def cmp : Implicant → Implicant → Ordering
  | [], [] => .eq
  | [], _ :: _ => .lt
  | _ :: _, [] => .gt
  | x :: xs, y :: ys =>
    if x.rank < y.rank then .lt else if y.rank < x.rank then .gt else cmp xs ys

def glue : Implicant → Implicant → Option Implicant
  | x :: xs, y :: ys =>
    if x = y then (glue xs ys).map (x :: ·)
    else if x = .dontCare ∨ y = .dontCare then none
    else if xs = ys then some (.dontCare :: xs)
    else none
  | _, _ => none

def covers (a : Implicant) (values : List Bool) : Bool :=
  a.length == values.length && (a.zip values).all fun p => p.1.admits p.2

/-- The conjunction of the literals an implicant fixes, pairing positions with variables in
order; with no fixed position it is the constant `1`. -/
def toTerm (a : Implicant) (vs : List Var) : Formula :=
  (Formula.chain .and ((vs.zip a).filterMap fun p => match p.2 with
    | .zero => some (Formula.literal p.1 false)
    | .one => some (Formula.literal p.1 true)
    | .dontCare => none)).getD (.const true)

def insertSorted (a : Implicant) : List Implicant → List Implicant
  | [] => [a]
  | b :: bs =>
    match cmp a b with
    | .lt => a :: b :: bs
    | .eq => b :: bs
    | .gt => b :: insertSorted a bs

def sortSet (as : List Implicant) : List Implicant :=
  (as.mergeSort fun a b => cmp a b != .gt).foldr (fun a acc =>
    match acc with
    | b :: _ => if cmp a b == .eq then acc else a :: acc
    | [] => [a]) []

end Implicant

end PropCalc
