namespace PropCalc.Pattern.Utf8

def encode (x : Nat) : List Nat :=
  if x < 0x80 then [x]
  else if x < 0x800 then [0xC0 + x / 64, 0x80 + x % 64]
  else if x < 0x10000 then [0xE0 + x / 4096, 0x80 + x / 64 % 64, 0x80 + x % 64]
  else [0xF0 + x / 262144, 0x80 + x / 4096 % 64, 0x80 + x / 64 % 64, 0x80 + x % 64]

def lengthCut? (lo hi : Nat) : Option Nat :=
  [0x7F, 0x7FF, 0xFFFF].find? fun m => lo ≤ m ∧ m < hi

/-- Where a range from `lo` to `hi` whose ends lie in different blocks of `64`, `4096` or
`262144` code points must be cut so that its parts sit on block boundaries: after the block of
`lo` when `lo` does not start one, or else before the block of `hi` when `hi` does not end one. -/
def blockCut? (lo hi : Nat) : Option Nat :=
  [64, 4096, 262144].findSome? fun m =>
    if lo / m = hi / m then none
    else if lo % m ≠ 0 then some (lo / m * m + m - 1)
    else if hi % m ≠ m - 1 then some (hi / m * m - 1)
    else none

def sequencesOf : Nat → List (Nat × Nat) → List (List (Nat × Nat))
  | 0, _ => []
  | _, [] => []
  | fuel + 1, (lo, hi) :: stack =>
    if lo < 0xE000 ∧ hi > 0xD7FF then sequencesOf fuel ((lo, 0xD7FF) :: (0xE000, hi) :: stack)
    else if hi < lo then sequencesOf fuel stack
    else
      match lengthCut? lo hi with
      | some m => sequencesOf fuel ((lo, m) :: (m + 1, hi) :: stack)
      | none =>
        if hi ≤ 0x7F then [(lo, hi)] :: sequencesOf fuel stack
        else
          match blockCut? lo hi with
          | some m => sequencesOf fuel ((lo, m) :: (m + 1, hi) :: stack)
          | none => (encode lo).zip (encode hi) :: sequencesOf fuel stack

def sequences (lo hi : Nat) : List (List (Nat × Nat)) := sequencesOf 64 [(lo, hi)]

end PropCalc.Pattern.Utf8
