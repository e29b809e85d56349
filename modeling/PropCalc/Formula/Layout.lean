import PropCalc.Formula.Basic

namespace PropCalc

/-- One node of a formula, with its children given by `ι` (indices in a layout, or results of a fold). -/
inductive Shape (ι : Type) where
  | const (value : Bool)
  | var (v : Var)
  | neg (child : ι)
  | bin (op : Connective) (left right : ι)
deriving DecidableEq

abbrev Node := Shape Nat

namespace Shape

def precedence {ι : Type} : Shape ι → Nat
  | const _ | var _ => 5
  | neg _ => 4
  | bin op _ _ => op.precedence

def children {ι : Type} : Shape ι → List ι
  | const _ | var _ => []
  | neg a => [a]
  | bin _ a b => [a, b]

def toFormula : Shape Formula → Formula
  | const b => .const b
  | var v => .var v
  | neg a => .neg a
  | bin op a b => .bin op a b

def enqueue {α : Type} (this : Nat) : Shape α → List (α × Option Nat) → Node × List (α × Option Nat)
  | const b, q => (const b, q)
  | var v, q => (var v, q)
  | neg a, q =>
    let q := q ++ [(a, some this)]
    (neg (this + q.length), q)
  | bin op a b, q =>
    let q := q ++ [(a, some this)]
    let i := this + q.length
    let q := q ++ [(b, some this)]
    (bin op i (this + q.length), q)

end Shape

namespace Formula

def shape : Formula → Shape Formula
  | const b => .const b
  | var v => .var v
  | neg a => .neg a
  | bin op a b => .bin op a b

theorem map_fst_enqueue_shape (s : Formula) (this : Nat) (q : List (Formula × Option Nat)) :
    (s.shape.enqueue this q).2.map Prod.fst = q.map Prod.fst ++ s.children := by
  cases s with
  | const b | var v => exact (List.append_nil _).symm
  | neg a => exact List.map_append ..
  | bin op a b =>
    show ((q ++ [(a, some this)]) ++ [(b, some this)]).map Prod.fst = q.map Prod.fst ++ [a, b]
    rw [List.map_append, List.map_append, List.append_assoc]
    rfl

end Formula

/-- A formula laid out in an array: its nodes by index, and the parent of each node. -/
structure Layout where
  nodes : List Node
  parents : List (Option Nat)

namespace Formula

def expandFrom (q : List (Formula × Option Nat)) (L : Layout) : Layout :=
  match q with
  | [] => L
  | (s, parent) :: q =>
    let step := s.shape.enqueue L.nodes.length q
    expandFrom step.2 ⟨L.nodes ++ [step.1], L.parents ++ [parent]⟩
termination_by sizes (q.map Prod.fst)
decreasing_by
  have h := size_eq_children s
  have e := sizes_append (q.map Prod.fst) s.children
  rw [map_fst_enqueue_shape]
  show sizes (q.map Prod.fst ++ s.children) < s.size + sizes (q.map Prod.fst)
  omega

def layout (t : Formula) : Layout := expandFrom [(t, none)] ⟨[], []⟩

end Formula

namespace Layout

def size (L : Layout) : Nat := L.nodes.length

def takeResult {R : Type} (results : Array (Option R)) (j : Nat) : Option (R × Array (Option R)) :=
  match results[j]? with
  | some (some r) => some (r, results.setIfInBounds j none)
  | _ => none

def takeChildren {R : Type} : Node → Array (Option R) → Option (Shape R × Array (Option R))
  | .const b, results => some (.const b, results)
  | .var v, results => some (.var v, results)
  | .neg a, results => do
    let (x, results) ← takeResult results a
    pure (.neg x, results)
  | .bin op a b, results => do
    let (x, results) ← takeResult results a
    let (y, results) ← takeResult results b
    pure (.bin op x y, results)

/-- Fold the listed nodes, last first, over the result slots: each node takes its children's
results out of their slots and leaves its own in its slot. A failure of `f` stops the fold, and
so does a child whose slot is empty (`.ok none`). -/
def collapseFrom {ε R : Type} (f : Shape R → Except ε R) :
    List (Node × Nat) → Array (Option R) → Except ε (Option (Array (Option R)))
  | [], results => .ok (some results)
  | (node, i) :: rest, results =>
    match collapseFrom f rest results with
    | .ok (some results) =>
      match takeChildren node results with
      | some (s, results) => (f s).map fun r => some (results.setIfInBounds i (some r))
      | none => .ok none
    | stopped => stopped

def tryCollapse {ε R : Type} (L : Layout) (f : Shape R → Except ε R) : Except ε (Option R) :=
  (collapseFrom f L.nodes.zipIdx (Array.replicate L.nodes.length none)).map
    fun results => results.bind fun rs => rs[0]?.join

def collapse? {R : Type} (L : Layout) (f : Shape R → R) : Option R :=
  match L.tryCollapse (fun s => (Except.ok (f s) : Except Empty R)) with
  | .ok r => r
  | .error e => nomatch e

def toFormula? (L : Layout) : Option Formula := L.collapse? Shape.toFormula

end Layout

end PropCalc
