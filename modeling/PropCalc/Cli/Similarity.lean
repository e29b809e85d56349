namespace PropCalc.Cli

/-- Mark the first unmatched character of `b`, within `[lo, hi)`, equal to `c`. -/
def claim (c : Char) (b : List Char) (lo hi : Nat) (taken : List Bool) : Option (List Bool) :=
  let rec go (j : Nat) : List Char → List Bool → Option (List Bool)
    | x :: xs, t :: ts =>
      if lo ≤ j ∧ j < hi ∧ x = c ∧ !t then some (true :: ts)
      else (go (j + 1) xs ts).map (t :: ·)
    | _, _ => none
  go 0 b taken

def matchFlags (a b : List Char) : List Bool × List Bool :=
  let range := (max a.length b.length / 2) - 1
  let step := fun (acc : List Bool × List Bool) (p : Char × Nat) =>
    let (c, i) := p
    match claim c b (i - range) (min b.length (i + range + 1)) acc.2 with
    | some taken => (acc.1 ++ [true], taken)
    | none => (acc.1 ++ [false], acc.2)
  a.zipIdx.foldl step ([], List.replicate b.length false)

def jaro (s t : String) : Float :=
  let a := s.toList
  let b := t.toList
  if a.isEmpty ∧ b.isEmpty then 1
  else if a.isEmpty ∨ b.isEmpty then 0
  else
    let (fa, fb) := matchFlags a b
    let ma := (a.zip fa).filterMap fun p => if p.2 then some p.1 else none
    let mb := (b.zip fb).filterMap fun p => if p.2 then some p.1 else none
    let m := ma.length
    if m = 0 then 0
    else
      let t := ((ma.zip mb).filter fun p => p.1 ≠ p.2).length / 2
      let mf := Float.ofNat m
      (mf / Float.ofNat a.length + mf / Float.ofNat b.length + Float.ofNat (m - t) / mf) / 3

end PropCalc.Cli
