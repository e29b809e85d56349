namespace PropCalc

/-- A JSON-shaped value. -/
inductive Datum where
  | null
  | bool (b : Bool)
  | int (n : Int)
  | float (x : Float)
  | str (s : String)
  | arr (items : List Datum)
  | obj (fields : List (String × Datum))
deriving Inhabited

namespace Datum

def same : Datum → Datum → Bool
  | null, null => true
  | bool a, bool b => a == b
  | int m, int n => m == n
  | float x, float y => x == y
  | str a, str b => a == b
  | arr xs, arr ys =>
    xs.length == ys.length && (xs.attach.zip ys).all fun p => same p.1.1 p.2
  | obj xs, obj ys =>
    xs.length == ys.length && xs.attach.all fun p =>
      ys.any fun q => p.1.1 == q.1 && same p.1.2 q.2
  | _, _ => false
termination_by a => sizeOf a
decreasing_by
  · have := List.sizeOf_lt_of_mem p.1.2
    rw [arr.sizeOf_spec]
    omega
  · have := List.sizeOf_lt_of_mem p.2
    have h2 : sizeOf p.1.2 < sizeOf p.1 := by
      obtain ⟨⟨k, v⟩, _⟩ := p
      show sizeOf v < sizeOf (k, v)
      rw [Prod.mk.sizeOf_spec]
      omega
    rw [obj.sizeOf_spec]
    omega

end Datum

end PropCalc
