import PropCalc.Combinator.Datum
import PropCalc.Syntax.Token

namespace PropCalc

inductive Rule where
  | tagged (tag : String)
  | reserved (lexeme tag : String)
  | seq (first second : Rule)
  | alt (first second : Rule)
  | optional (body : Rule)
  | many (body : Rule)
  | whole (body : Rule)
  | call (name : String)
  | chain (operand operator : Rule)
  | keep (body : Rule) (allowed : List Datum)
  | replace (body : Rule) (value : Datum)
deriving Inhabited

/-- The outcome of a rule. -/
inductive Reply where
  | done (value : Datum) (next : Nat)
  | miss
  | stuck
deriving Inhabited

namespace Rule

def size : Rule → Nat
  | tagged _ | reserved _ _ | call _ => 1
  | seq a b | alt a b | chain a b => a.size + b.size + 1
  | optional a | many a | whole a | keep a _ | replace a _ => a.size + 1

def calls : Rule → List String
  | tagged _ | reserved _ _ => []
  | call n => [n]
  | seq a b | alt a b | chain a b => a.calls ++ b.calls
  | optional a | many a | whole a | keep a _ | replace a _ => a.calls

end Rule

namespace Reply

def manyFrom (step : Nat → Reply) : Nat → Nat → List Datum → Reply
  | 0, _, _ => .stuck
  | bound + 1, pos, acc =>
    match step pos with
    | .done v p => if p = pos then .done (.arr (v :: acc).reverse) pos else manyFrom step bound p (v :: acc)
    | .miss => .done (.arr acc.reverse) pos
    | .stuck => .stuck

def chainFrom (operand operator : Nat → Reply) : Nat → Datum → Nat → Reply
  | 0, _, _ => .stuck
  | bound + 1, acc, pos =>
    match operator pos with
    | .miss => .done acc pos
    | .stuck => .stuck
    | .done o q =>
      match operand q with
      | .miss => .done acc pos
      | .stuck => .stuck
      | .done r p =>
        if p = pos then .stuck
        else chainFrom operand operator bound (.obj [("op", o), ("l", acc), ("r", r)]) p

end Reply

/-- Named rules, and the tokens they read. -/
structure RuleSet where
  rules : List (String × Rule)

namespace RuleSet

def run (rs : RuleSet) (ts : Array (Token String)) : Nat → Rule → Nat → Reply
  | 0, _, _ => .stuck
  | fuel + 1, r, pos =>
    match r with
    | .tagged tag =>
      match ts[pos]? with
      | some t => if t.tag = tag then .done (.str t.lexeme) (pos + 1) else .miss
      | none => .miss
    | .reserved lexeme tag =>
      match ts[pos]? with
      | some t => if t.tag = tag ∧ t.lexeme = lexeme then .done (.str t.lexeme) (pos + 1) else .miss
      | none => .miss
    | .seq a b =>
      match run rs ts fuel a pos with
      | .done x p =>
        match run rs ts fuel b p with
        | .done y q => .done (.arr [x, y]) q
        | other => other
      | other => other
    | .alt a b =>
      match run rs ts fuel a pos with
      | .miss => run rs ts fuel b pos
      | other => other
    | .optional a =>
      match run rs ts fuel a pos with
      | .done x p => .done (.obj [("some", x)]) p
      | .miss => .done .null pos
      | .stuck => .stuck
    | .many a => Reply.manyFrom (run rs ts fuel a) (ts.size + 2) pos []
    | .whole a =>
      match run rs ts fuel a pos with
      | .done x p => if p = ts.size then .done x p else .miss
      | other => other
    | .call name =>
      match rs.rules.lookup name with
      | some body => run rs ts fuel body pos
      | none => .miss
    | .chain v o =>
      match run rs ts fuel v pos with
      | .done x p => Reply.chainFrom (run rs ts fuel v) (run rs ts fuel o) (ts.size + 2) x p
      | other => other
    | .keep a allowed =>
      match run rs ts fuel a pos with
      | .done x p => if allowed.any (Datum.same · x) then .done x p else .miss
      | other => other
    | .replace a c =>
      match run rs ts fuel a pos with
      | .done _ p => .done c p
      | other => other

def depthBound (rs : RuleSet) (start : Rule) (count : Nat) : Nat :=
  (count + 2) * (rs.rules.length + 1) * ((rs.rules.map fun p => p.2.size).foldl max start.size + 1)

def parse (rs : RuleSet) (start : Rule) (tokens : List (Token String)) (pos : Nat) : Reply :=
  let ts := tokens.toArray
  rs.run ts (rs.depthBound start ts.size) start pos

def undefinedCalls (rs : RuleSet) : List String :=
  (rs.rules.flatMap fun p => p.2.calls).filter fun n => (rs.rules.lookup n).isNone

end RuleSet

end PropCalc
