namespace PropCalc.Unicode

namespace Ranges

def search (table : Array (Nat × Nat)) (x : Nat) (lo hi : Nat) : Bool :=
  if lo < hi then
    let mid := (lo + hi) / 2
    match table[mid]? with
    | some (a, b) =>
      if x < a then search table x lo mid
      else if b < x then search table x (mid + 1) hi
      else true
    | none => false
  else false
termination_by hi - lo

def contains (table : Array (Nat × Nat)) (x : Nat) : Bool := search table x 0 table.size

def hexDigit? (c : Char) : Option Nat :=
  if '0' ≤ c ∧ c ≤ '9' then some (c.toNat - '0'.toNat)
  else if 'a' ≤ c ∧ c ≤ 'f' then some (c.toNat - 'a'.toNat + 10)
  else none

/-- The state of reading a table: the ranges read, the start of the current range once its
`-` has been read, and the number being read. -/
structure Reading where
  ranges : Array (Nat × Nat) := #[]
  low : Option Nat := none
  current : Option Nat := none

def Reading.close (r : Reading) : Reading :=
  match r.current with
  | none => r
  | some n => { ranges := r.ranges.push (r.low.getD n, n), low := none, current := none }

def Reading.step (r : Reading) (c : Char) : Reading :=
  match hexDigit? c with
  | some d => { r with current := some (r.current.getD 0 * 16 + d) }
  | none => if c = '-' then { r with low := r.current, current := none } else r.close

def decode (s : String) : Array (Nat × Nat) := (s.foldl Reading.step {}).close.ranges

/-- Join a range to the last of a list of sorted ranges when they overlap or touch. -/
def absorb (acc : List (Nat × Nat)) (r : Nat × Nat) : List (Nat × Nat) :=
  match acc with
  | (lo, hi) :: rest => if r.1 ≤ hi + 1 then (lo, max hi r.2) :: rest else r :: acc
  | [] => [r]

def merge (rs : List (Nat × Nat)) : List (Nat × Nat) :=
  ((rs.mergeSort fun a b => a.1 ≤ b.1).foldl absorb []).reverse

end Ranges

end PropCalc.Unicode
