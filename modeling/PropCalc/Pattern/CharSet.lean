import PropCalc.Unicode.Fold

namespace PropCalc.Pattern

def maxCode : Nat := 0x10FFFF

/-- A set of code points given by inclusive ranges. -/
structure CharSet where
  ranges : List (Nat × Nat)
deriving DecidableEq, Inhabited

namespace CharSet

def none : CharSet := ⟨[]⟩

def range (lo hi : Nat) : CharSet := ⟨[(lo, hi)]⟩

def single (c : Char) : CharSet := range c.toNat c.toNat

def ofChars (cs : List Char) : CharSet := ⟨cs.map fun c => (c.toNat, c.toNat)⟩

def ofTable (t : Array (Nat × Nat)) : CharSet := ⟨t.toList⟩

def mem (s : CharSet) (x : Nat) : Bool := s.ranges.any fun r => r.1 ≤ x && x ≤ r.2

def contains (s : CharSet) (c : Char) : Bool := s.mem c.toNat

def merge : List (Nat × Nat) → List (Nat × Nat)
  | [] => []
  | [r] => [r]
  | (a, b) :: (c, d) :: rest =>
    if c ≤ b + 1 then merge ((a, max b d) :: rest) else (a, b) :: merge ((c, d) :: rest)
termination_by rs => rs.length

/-- The same set with sorted, disjoint, non-adjacent ranges. -/
def normalize (s : CharSet) : CharSet :=
  ⟨merge ((s.ranges.filter fun r => r.1 ≤ r.2).mergeSort fun r t => r.1 ≤ t.1)⟩

def union (s t : CharSet) : CharSet := normalize ⟨s.ranges ++ t.ranges⟩

def unionAll (ss : List CharSet) : CharSet := normalize ⟨ss.flatMap ranges⟩

/-- The code points from `next` to `top` that no range of a sorted list covers. -/
def gaps (top : Nat) : Nat → List (Nat × Nat) → List (Nat × Nat)
  | next, [] => if next ≤ top then [(next, top)] else []
  | next, (a, b) :: rest => (if next < a ∧ next ≤ top then [(next, min (a - 1) top)] else []) ++ gaps top (b + 1) rest

def complementWithin (top : Nat) (s : CharSet) : CharSet := ⟨gaps top 0 (normalize s).ranges⟩

def complement (s : CharSet) : CharSet := complementWithin maxCode s

def inter (s t : CharSet) : CharSet := complement (union (complement s) (complement t))

def diff (s t : CharSet) : CharSet := inter s (complement t)

def symmDiff (s t : CharSet) : CharSet := diff (union s t) (inter s t)

def isAscii (s : CharSet) : Bool := s.ranges.all fun r => r.1 > r.2 || r.2 ≤ 0x7F

/-- Close a set under simple case folding: add every character equivalent to one in the set. -/
def foldCase (s : CharSet) : CharSet :=
  union s ⟨(Unicode.foldOrbits.toList.filter fun o => o.any s.mem).flatMap fun o => o.map fun x => (x, x)⟩

def foldAscii (s : CharSet) : CharSet :=
  let upper := (inter s (range 0x41 0x5A)).ranges.map fun r => (r.1 + 32, r.2 + 32)
  let lower := (inter s (range 0x61 0x7A)).ranges.map fun r => (r.1 - 32, r.2 - 32)
  normalize ⟨s.ranges ++ upper ++ lower⟩

end CharSet

end PropCalc.Pattern
