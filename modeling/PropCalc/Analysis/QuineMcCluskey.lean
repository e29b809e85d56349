import PropCalc.Analysis.Implicant
import PropCalc.Journal

namespace PropCalc

namespace QuineMcCluskey

def groups (current : List Implicant) (width : Nat) : Array (List Implicant) :=
  current.foldl (fun acc a => acc.modify a.ones (a :: ·)) (Array.replicate (width + 1) [])

/-- One round: the glued implicants as a set, and the implicants that glue with none. Two
implicants can glue only when their counts of `1` positions differ by one. -/
def round (current : List Implicant) (width : Nat) : List Implicant × List Implicant :=
  let g := groups current width
  let group (k : Nat) : List Implicant := g[k]?.getD []
  let glued := (List.range width).flatMap fun k =>
    (group k).flatMap fun a => (group (k + 1)).filterMap fun b => a.glue b
  let gluesWithSome (a : Implicant) : Bool :=
    (group (a.ones + 1)).any (fun b => (a.glue b).isSome) ||
      (a.ones != 0 && (group (a.ones - 1)).any (fun b => (b.glue a).isSome))
  (Implicant.sortSet glued, current.filter fun a => !gluesWithSome a)

def rounds (width : Nat) : Nat → Nat → List Implicant → List Implicant → Traced (List Implicant)
  | 0, _, _, primes => pure primes
  | fuel + 1, r, current, primes =>
    if current.isEmpty then pure primes
    else do
      let (glued, survivors) := round current width
      Traced.debug .minimize ("qm round " ++ toString r ++ ": " ++ toString current.length ++
        " implicants, " ++ toString glued.length ++ " glued, " ++ toString survivors.length ++ " prime")
      rounds width fuel (r + 1) glued (Implicant.sortSet (primes ++ survivors))

def primeImplicants (minterms : List (List Bool)) : Traced (List Implicant) :=
  let width := (minterms.map List.length).foldl max 0
  rounds width (width + 1) 1 (Implicant.sortSet (minterms.map Implicant.ofValues)) []

end QuineMcCluskey

end PropCalc
