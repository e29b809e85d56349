import PropCalc.Analysis.NormalForm
import PropCalc.Analysis.Zhegalkin
import PropCalc.Analysis.QuineMcCluskey

namespace PropCalc

/-- A formula under analysis, with its variable-set memo and its cached table. -/
structure Calculator where
  formula : Formula
  memo : Memo := {}
  memoize : Bool := true
  cache : Option TruthTable := none

abbrev Session := StateT Calculator (ExceptT Panic Traced)

/-- The results of every analysis of one formula. -/
structure Analysis where
  table : Except ConstantFunction TruthTable
  fullConjunctive : Except ConstantFunction Formula
  fullDisjunctive : Except ConstantFunction Formula
  polynomial : Except ConstantFunction Formula
  primes : Except ConstantFunction (List Implicant)
  minimized : Formula

namespace Calculator

def note (level : Level) (topic : Topic) (message : String) : Session Unit :=
  StateT.lift (ExceptT.lift (Traced.note level topic message))

def freshTable : Session (Except ConstantFunction TruthTable) := do
  let c ← get
  let (r, m) ← StateT.lift (TruthTable.build c.formula c.memo)
  set { c with memo := m }
  pure r

def table : Session (Except ConstantFunction TruthTable) := do
  let c ← get
  if c.memoize then
    match c.cache with
    | some t =>
      note .trace .calculator "truth table: cached"
      pure (.ok t)
    | none =>
      let r ← freshTable
      if let .ok t := r then modify fun c => { c with cache := some t }
      pure r
  else freshTable

def nonConstantTable : Session (Except ConstantFunction TruthTable) := do
  match ← table with
  | .error e => pure (.error e)
  | .ok t =>
    match t.constantValue? with
    | some v => pure (.error ⟨v⟩)
    | none => pure (.ok t)

def fullConjunctive : Session (Except ConstantFunction Formula) := do
  match ← nonConstantTable with
  | .error e => pure (.error e)
  | .ok t =>
    match t.fullConjunctive with
    | .error p => throw p
    | .ok none => pure (.error ⟨true⟩)
    | .ok (some f) =>
      note .debug .forms ("fcnf: " ++ toString f.size ++ " nodes")
      pure (.ok f)

def fullDisjunctive : Session (Except ConstantFunction Formula) := do
  match ← nonConstantTable with
  | .error e => pure (.error e)
  | .ok t =>
    match t.fullDisjunctive with
    | .error p => throw p
    | .ok none => pure (.error ⟨false⟩)
    | .ok (some f) =>
      note .debug .forms ("fdnf: " ++ toString f.size ++ " nodes")
      pure (.ok f)

def polynomial : Session (Except ConstantFunction Formula) := do
  match ← nonConstantTable with
  | .error e => pure (.error e)
  | .ok t =>
    match t.polynomial with
    | none => pure (.error ⟨false⟩)
    | some f =>
      let cs := t.coefficients
      note .debug .zhegalkin ("zhegalkin: " ++ toString (cs.filter id).length ++ " of " ++
        toString cs.length ++ " monomials")
      pure (.ok f)

def primes : Session (Except ConstantFunction (List Implicant)) := do
  match ← nonConstantTable with
  | .error e => pure (.error e)
  | .ok t =>
    let ps ← StateT.lift (ExceptT.lift (QuineMcCluskey.primeImplicants (t.satisfying.map Row.values)))
    pure (.ok ps)

def minimize : Session Formula := do
  match ← nonConstantTable with
  | .error e => pure (.const e.value)
  | .ok t =>
    let ps ← StateT.lift (ExceptT.lift (QuineMcCluskey.primeImplicants (t.satisfying.map Row.values)))
    pure ((Formula.chain .or (ps.map fun p => p.toTerm t.columns)).getD (.const false))

def isCached : Session Bool := do return (← get).cache.isSome

def clearCache : Session Unit := modify fun c => { c with cache := none }

/-- Every analysis, in the order: table, conjunctive form, disjunctive form, polynomial, prime
implicants, minimized form. -/
def analyze : Session Analysis := do
  let table ← table
  let fullConjunctive ← fullConjunctive
  let fullDisjunctive ← fullDisjunctive
  let polynomial ← polynomial
  let primes ← primes
  let minimized ← minimize
  pure { table, fullConjunctive, fullDisjunctive, polynomial, primes, minimized }

end Calculator

end PropCalc
