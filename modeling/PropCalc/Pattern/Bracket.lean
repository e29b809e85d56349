import PropCalc.Pattern.Escape

namespace PropCalc.Pattern

inductive SetOp where
  | inter
  | diff
  | symm
deriving DecidableEq, Inhabited

namespace SetOp

def apply : SetOp → CharSet → CharSet → CharSet
  | inter, s, t => s.inter t
  | diff, s, t => s.diff t
  | symm, s, t => s.symmDiff t

end SetOp

def asciiClass? (name : String) : Option CharSet :=
  let ranges : Option (List (Nat × Nat)) := match name with
    | "alnum" => some [(0x30, 0x39), (0x41, 0x5A), (0x61, 0x7A)]
    | "alpha" => some [(0x41, 0x5A), (0x61, 0x7A)]
    | "ascii" => some [(0x00, 0x7F)]
    | "blank" => some [(0x09, 0x09), (0x20, 0x20)]
    | "cntrl" => some [(0x00, 0x1F), (0x7F, 0x7F)]
    | "digit" => some [(0x30, 0x39)]
    | "graph" => some [(0x21, 0x7E)]
    | "lower" => some [(0x61, 0x7A)]
    | "print" => some [(0x20, 0x7E)]
    | "punct" => some [(0x21, 0x2F), (0x3A, 0x40), (0x5B, 0x60), (0x7B, 0x7E)]
    | "space" => some [(0x09, 0x0D), (0x20, 0x20)]
    | "upper" => some [(0x41, 0x5A)]
    | "word" => some [(0x30, 0x39), (0x41, 0x5A), (0x5F, 0x5F), (0x61, 0x7A)]
    | "xdigit" => some [(0x30, 0x39), (0x41, 0x46), (0x61, 0x66)]
    | _ => none
  ranges.map fun rs => CharSet.normalize ⟨rs⟩

def asciiItem? : List Char → Option (CharSet × Bool × List Char)
  | '[' :: ':' :: rest =>
    let (negated, body) := match rest with
      | '^' :: b => (true, b)
      | b => (false, b)
    let name := body.takeWhile (· ≠ ':')
    match body.dropWhile (· ≠ ':') with
    | ':' :: ']' :: more => (asciiClass? (String.ofList name)).map fun s => (s, negated, more)
    | _ => none
  | _ => none

/-- One item that may end a range: a literal, or a class from an escape. -/
inductive ClassAtom where
  | lit (c : Char)
  | set (s : CharSet)

def classAtom (f : Flags) (cs : List Char) : Except PatternError (ClassAtom × List Char) :=
  match cs with
  | [] => .error .unclosedClass
  | '\\' :: rest => do
    let (e, rest) ← escape f rest
    match e with
    | .lit c _ => if !f.unicode && c.toNat > 0x7F then .error .notText else .ok (.lit c, rest)
    | .set s => .ok (.set s, rest)
    | .look _ => .error .badEscape
  | c :: rest => if !f.unicode && c.toNat > 0x7F then .error .notText else .ok (.lit c, rest)

def classRange (f : Flags) (cs : List Char) : Except PatternError (CharSet × List Char) := do
  let (first, rest) ← classAtom f cs
  let rest := skipSpace f.verbose rest
  let asSet : ClassAtom → CharSet := fun a => match a with
    | .lit c => CharSet.single c
    | .set s => s
  match rest with
  | [] => .error .unclosedClass
  | '-' :: more =>
    match peekSpace f.verbose more with
    | some ']' | some '-' => .ok (asSet first, rest)
    | _ =>
      let more := skipSpace f.verbose more
      if more.isEmpty then .error .unclosedClass
      let (last, rest) ← classAtom f more
      match first, last with
      | .lit a, .lit b => if a ≤ b then .ok (CharSet.range a.toNat b.toNat, rest) else .error .badClassRange
      | _, _ => .error .badClassRange
  | _ => .ok (asSet first, rest)

def bracketOpen (f : Flags) (cs : List Char) : Except PatternError (Bool × CharSet × Nat × List Char) := do
  let cs := skipSpace f.verbose cs
  if cs.isEmpty then .error .unclosedClass
  let (negated, cs) := match cs with
    | '^' :: rest => (true, skipSpace f.verbose rest)
    | _ => (false, cs)
  if cs.isEmpty then .error .unclosedClass
  let rec dashes (n : Nat) (cs : List Char) : Nat × List Char :=
    match cs with
    | '-' :: rest => dashes (n + 1) (skipSpace f.verbose rest)
    | _ => (n, cs)
  termination_by cs.length
  decreasing_by
    have := length_skipSpace f.verbose rest
    simp only [List.length_cons]; omega
  let (n, cs) := dashes 0 cs
  if cs.isEmpty then .error .unclosedClass
  let lits := if n > 0 then CharSet.single '-' else CharSet.none
  match cs with
  | ']' :: rest =>
    if n = 0 then
      let rest := skipSpace f.verbose rest
      if rest.isEmpty then .error .unclosedClass
      .ok (negated, CharSet.single ']', 1, rest)
    else .ok (negated, lits, n, cs)
  | _ => .ok (negated, lits, n, cs)

/-- How the items of a bracket nest: how many there are and the depth of the deepest. -/
structure Nesting where
  count : Nat := 0
  deepest : Nat := 0

namespace Nesting

def add (n : Nesting) (d : Nat) : Nesting := { count := n.count + 1, deepest := Nat.max n.deepest d }

def depth (n : Nesting) : Nat := if n.count ≥ 2 then n.deepest + 1 else n.deepest

end Nesting

/-- A bracket that encloses the one being read: whether it is negated, the items it had
collected and how they nest, and its waiting operator with the left operand and its depth. -/
structure OpenBracket where
  negated : Bool
  items : CharSet
  nesting : Nesting
  pending : Option (SetOp × CharSet × Nat)

def combine (f : Flags) (pending : Option (SetOp × CharSet × Nat)) (items : CharSet) : CharSet :=
  match pending with
  | none => items
  | some (op, lhs, _) => op.apply (f.fold lhs) (f.fold items)

def combineDepth (pending : Option (SetOp × CharSet × Nat)) (n : Nesting) : Nat :=
  match pending with
  | none => n.depth
  | some (_, _, d) => Nat.max d n.depth + 1

def bracketItems (f : Flags) : Nat → Bool → CharSet → Nesting → Option (SetOp × CharSet × Nat) →
    List OpenBracket → List Char → Except PatternError (CharSet × Nat × List Char)
  | 0, _, _, _, _, _, _ => .error .unclosedClass
  | fuel + 1, negated, items, nest, pending, outer, cs =>
    let next (op : SetOp) (rest : List Char) :=
      bracketItems f fuel negated CharSet.none {}
        (some (op, combine f pending items, combineDepth pending nest)) outer rest
    match skipSpace f.verbose cs with
    | [] => .error .unclosedClass
    | '[' :: rest =>
      match asciiItem? ('[' :: rest) with
      | some (s, neg, more) => do
        let s ← f.foldNegate neg s
        bracketItems f fuel negated (items.union s) (nest.add 0) pending outer more
      | none => do
        let (neg, lits, count, more) ← bracketOpen f rest
        bracketItems f fuel neg lits { count := count } none
          (⟨negated, items, nest, pending⟩ :: outer) more
    | ']' :: rest => do
      let s ← f.foldNegate negated (combine f pending items)
      let depth := combineDepth pending nest + 1
      match outer with
      | [] => .ok (s, depth, rest)
      | b :: bs => bracketItems f fuel b.negated (b.items.union s) (b.nesting.add depth) b.pending bs rest
    | '&' :: '&' :: rest => next .inter rest
    | '-' :: '-' :: rest => next .diff rest
    | '~' :: '~' :: rest => next .symm rest
    | c :: rest => do
      let (s, more) ← classRange f (c :: rest)
      bracketItems f fuel negated (items.union s) (nest.add 0) pending outer more

def bracket (f : Flags) (cs : List Char) : Except PatternError (CharSet × Nat × List Char) := do
  let (negated, lits, count, rest) ← bracketOpen f cs
  bracketItems f (cs.length + 1) negated lits { count := count } none [] rest

end PropCalc.Pattern
