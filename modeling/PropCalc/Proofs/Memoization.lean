import Mathlib
import PropCalc.Proofs.NormalForms

namespace PropCalc

/-- The record a table request leaves when it finds its table cached. -/
def cachedRecord : Record := ⟨.trace, .calculator, "truth table: cached"⟩

theorem cachedRecord_not_mem_note {level : Level} {topic : Topic} {message : String}
    (h : topic ≠ .calculator) : cachedRecord ∉ (Traced.note level topic message).records := by
  simp only [Traced.note, List.mem_singleton, cachedRecord, Record.mk.injEq, not_and]
  intro _ htopic
  exact absurd htopic.symm h

theorem cachedRecord_not_mem_bind {α β : Type} {x : Traced α} {f : α → Traced β}
    (hx : cachedRecord ∉ x.records) (hf : cachedRecord ∉ (f x.value).records) :
    cachedRecord ∉ (x >>= f).records := by
  rw [Traced.bind_records, List.mem_append]
  exact fun h => h.elim hx hf

theorem cachedRecord_not_mem_exceptBind {ε α β : Type} {x : ExceptT ε Traced α}
    {f : α → ExceptT ε Traced β} (hx : cachedRecord ∉ x.run.records)
    (hf : ∀ a, cachedRecord ∉ (f a).run.records) : cachedRecord ∉ (x >>= f).run.records := by
  rw [Traced.exceptBind_records, List.mem_append]
  rintro (h | h)
  · exact hx h
  · rcases hv : x.run.value with e | a
    · rw [hv] at h
      exact List.not_mem_nil h
    · rw [hv] at h
      exact hf a h

/-! ### Records of the computations below the calculator -/

namespace Memo

theorem cachedRecord_not_mem_walk (nodes : List Node) :
    ∀ (depth : Nat) (m : Memo) (i : Nat), cachedRecord ∉ (walk nodes depth m i).run.records
  | 0, _, _ => List.not_mem_nil
  | depth + 1, m, i => by
    have ih := cachedRecord_not_mem_walk nodes depth
    unfold walk
    split
    · exact cachedRecord_not_mem_exceptBind (by simp [cachedRecord, Traced.trace, Traced.note])
        fun _ => List.not_mem_nil
    · -- below a node not in the memo: the walks of its children, then the store
      have hstore : ∀ p : VarSet × Memo,
          cachedRecord ∉ (pure (p.2.getOrInit i p.1) : ExceptT Panic Traced (VarSet × Memo)).run.records :=
        fun _ => List.not_mem_nil
      dsimp only
      split
      · exact cachedRecord_not_mem_exceptBind List.not_mem_nil hstore
      · exact cachedRecord_not_mem_exceptBind List.not_mem_nil hstore
      · exact cachedRecord_not_mem_exceptBind List.not_mem_nil hstore
      · exact cachedRecord_not_mem_exceptBind (ih _ _) hstore
      · refine cachedRecord_not_mem_exceptBind (ih _ _) fun p => ?_
        rcases p with ⟨va, m₁⟩
        refine cachedRecord_not_mem_exceptBind (ih _ _) fun q => ?_
        rcases q with ⟨vb, m₂⟩
        exact cachedRecord_not_mem_exceptBind List.not_mem_nil hstore

end Memo

namespace TruthTable

theorem cachedRecord_not_mem_mapM {ε α β : Type} {f : α → ExceptT ε Traced β}
    (hf : ∀ a, cachedRecord ∉ (f a).run.records) :
    ∀ (xs : List α) (acc : List β), cachedRecord ∉ (List.mapM.loop f xs acc).run.records
  | [], _ => List.not_mem_nil
  | x :: xs, _ => cachedRecord_not_mem_exceptBind (hf x) fun _ => cachedRecord_not_mem_mapM hf xs _

theorem cachedRecord_not_mem_expectValue (r : Except Unbound (Option Bool)) (expectation : String) :
    cachedRecord ∉ (expectValue r expectation).run.records := by
  unfold expectValue
  split <;> exact List.not_mem_nil

theorem cachedRecord_not_mem_build (t : Formula) (m : Memo) :
    cachedRecord ∉ (build t m).run.records := by
  have hdebug : ∀ s, cachedRecord ∉ (ExceptT.lift (Traced.debug .table s) : ExceptT Panic Traced Unit).run.records :=
    fun _ => by simpa [Traced.debug] using cachedRecord_not_mem_note (by decide)
  unfold build
  refine cachedRecord_not_mem_exceptBind (Memo.cachedRecord_not_mem_walk _ _ _ _) fun p => ?_
  dsimp only
  split_ifs
  · exact cachedRecord_not_mem_exceptBind (cachedRecord_not_mem_expectValue _ _) fun _ =>
      cachedRecord_not_mem_exceptBind (hdebug _) fun _ => List.not_mem_nil
  · exact List.not_mem_nil
  · refine cachedRecord_not_mem_exceptBind (cachedRecord_not_mem_mapM (fun _ => ?_) _ _) fun _ =>
      cachedRecord_not_mem_exceptBind (hdebug _) fun _ => List.not_mem_nil
    exact cachedRecord_not_mem_exceptBind (cachedRecord_not_mem_expectValue _ _) fun _ => List.not_mem_nil

end TruthTable

namespace QuineMcCluskey

theorem cachedRecord_not_mem_rounds (width : Nat) :
    ∀ (fuel r : Nat) (current primes : List Implicant),
      cachedRecord ∉ (rounds width fuel r current primes).records := by
  intro fuel
  induction fuel with
  | zero => intro _ _ _; exact List.not_mem_nil
  | succ fuel ih =>
    intro r current primes
    unfold rounds
    split_ifs
    · exact List.not_mem_nil
    · exact cachedRecord_not_mem_bind (cachedRecord_not_mem_note (by decide)) (ih _ _ _)

theorem cachedRecord_not_mem_primeImplicants (minterms : List (List Bool)) :
    cachedRecord ∉ (primeImplicants minterms).records :=
  cachedRecord_not_mem_rounds _ _ _ _ _

end QuineMcCluskey

/-! ### Records of sessions -/

namespace Session

variable {α β : Type}

def records (x : Session α) (c : Calculator) : List Record := (x.run c).run.records

@[simp] theorem records_pure (a : α) (c : Calculator) : (pure a : Session α).records c = [] := rfl

@[simp] theorem records_bind (x : Session α) (f : α → Session β) (c : Calculator) :
    (x >>= f).records c = x.records c ++ match x.outcome c with
      | .ok (a, c') => (f a).records c'
      | .error _ => [] := by
  simp only [records, outcome, StateT.run_bind, ExceptT.run_bind]
  show ((x.run c).run >>= _).records = _
  rw [Traced.bind_records]
  rcases (x.run c).run.value with e | ⟨a, c'⟩ <;> rfl

@[simp] theorem records_get (c : Calculator) : (get : Session Calculator).records c = [] := rfl

@[simp] theorem records_set (c c' : Calculator) : (set c' : Session PUnit).records c = [] := rfl

@[simp] theorem records_modify (f : Calculator → Calculator) (c : Calculator) :
    (modify f : Session PUnit).records c = [] := rfl

@[simp] theorem records_lift (x : ExceptT Panic Traced α) (c : Calculator) :
    records (StateT.lift x : Session α) c = x.run.records := by
  simp only [records, StateT.run_lift, ExceptT.run_bind]
  show (x.run >>= _).records = _
  rw [Traced.bind_records]
  rcases x.run.value with e | a <;> simp

/-- A session that answers `b`, or stops with its panic, leaves the calculator as it is, and
leaves no cached-table record. -/
def Answers (y : Session β) (b : Except Panic β) : Prop :=
  ∀ c, y.outcome c = b.map (fun b => (b, c)) ∧ cachedRecord ∉ y.records c

theorem answers_pure (b : β) : (pure b : Session β).Answers (.ok b) :=
  fun _ => ⟨rfl, List.not_mem_nil⟩

theorem answers_throw (p : Panic) : (throw p : Session β).Answers (.error p) :=
  fun _ => ⟨rfl, List.not_mem_nil⟩

theorem Answers.bind {y : Session α} {k : α → Session β} {a : α} {b : Except Panic β}
    (hy : y.Answers (.ok a)) (hk : (k a).Answers b) : (y >>= k).Answers b := by
  intro c
  obtain ⟨h₁, h₂⟩ := hy c
  obtain ⟨h₃, h₄⟩ := hk c
  refine ⟨by rw [outcome_bind, h₁]; exact h₃, ?_⟩
  rw [records_bind, h₁, List.mem_append]
  exact fun h => h.elim h₂ h₄

theorem answers_note {level : Level} {topic : Topic} {message : String} (h : topic ≠ .calculator) :
    (Calculator.note level topic message).Answers (.ok ()) :=
  fun _ => ⟨rfl, by simpa [Calculator.note] using cachedRecord_not_mem_note h⟩

theorem answers_lift {x : Traced α} (h : cachedRecord ∉ x.records) :
    Session.Answers (StateT.lift (ExceptT.lift x)) (.ok x.value) :=
  fun _ => ⟨by rw [outcome_lift, Traced.exceptLift_value]; rfl, by simpa using h⟩

/-- A session that goes through one table request: its outcome is that of the table request
with the answer, or a panic, read off the table's, and it leaves the same cached-table
records. -/
def ThroughTable (x : Session β) : Prop :=
  ∃ g : Except ConstantFunction TruthTable → Except Panic β, ∀ c,
    x.outcome c = (Calculator.table.outcome c).bind (fun p => (g p.1).map fun b => (b, p.2)) ∧
      (x.records c).count cachedRecord = (Calculator.table.records c).count cachedRecord

theorem throughTable_table : ThroughTable Calculator.table := by
  refine ⟨.ok, fun c => ⟨?_, rfl⟩⟩
  rcases Calculator.table.outcome c with e | ⟨r, c'⟩ <;> rfl

theorem ThroughTable.bind {x : Session α} (hx : ThroughTable x) {k : α → Session β}
    (hk : ∀ a, ∃ b, (k a).Answers b) : ThroughTable (x >>= k) := by
  choose g' hg' using hk
  obtain ⟨g, hg⟩ := hx
  refine ⟨fun r => g r >>= g', fun c => ⟨?_, ?_⟩⟩
  · rw [outcome_bind, (hg c).1]
    rcases Calculator.table.outcome c with e | ⟨r, c'⟩
    · rfl
    · show (match (g r).map (fun b => (b, c')) with
        | .ok (a, c') => (k a).outcome c'
        | .error e => .error e) = (g r >>= g').map (fun b => (b, c'))
      rcases g r with p | a
      · rfl
      · exact ((hg' a) c').1
  · rw [records_bind, List.count_append, (hg c).2, (hg c).1]
    rcases Calculator.table.outcome c with e | ⟨r, c'⟩
    · rfl
    · show _ + List.count cachedRecord (match (g r).map (fun b => (b, c')) with
        | .ok (a, c') => (k a).records c'
        | .error _ => []) = _
      rcases g r with p | a
      · rfl
      · show _ + List.count cachedRecord ((k a).records c') = _
        rw [List.count_eq_zero_of_not_mem ((hg' a) c').2]
        rfl

end Session

/-! ### The table request -/

namespace Calculator

open Session

variable {c : Calculator}

theorem table_outcome_cache (hc : c.Coherent) (h : c.formula.vars.length ≤ maxVariables) :
    ∃ c', table.outcome c = .ok (c.formula.tableResult, c') ∧ c'.formula = c.formula ∧
      c'.memoize = c.memoize ∧ c'.Coherent ∧
      c'.cache.isSome = (c.cache.isSome || (c.memoize && !c.formula.vars.isEmpty)) := by
  obtain ⟨m, hm, hfresh⟩ := freshTable_outcome hc.memo h
  by_cases hmem : c.memoize = true
  · cases hcache : c.cache with
    | some T =>
      refine ⟨c, ?_, rfl, rfl, hc, by simp [hcache]⟩
      simp [table, hmem, hcache, note, hc.cache T hcache]
    | none =>
      cases hres : c.formula.tableResult with
      | error e =>
        have h0 : c.formula.vars = [] := Formula.tableResult_error_iff.mp ⟨e, hres⟩
        refine ⟨{ c with memo := m }, ?_, rfl, rfl, coherent_of_cache_eq_none hcache hm, ?_⟩
        · simp [table, hmem, hcache, hfresh, hres]
        · simp [hcache, h0]
      | ok T =>
        have h0 : c.formula.vars ≠ [] := fun h0 =>
          absurd (Formula.tableResult_error_iff.mpr h0) (by simp [hres])
        refine ⟨{ c with memo := m, cache := some T }, ?_, rfl, rfl, ⟨?_, hm⟩, ?_⟩
        · simp [table, hmem, hcache, hfresh, hres]
        · rintro T' ⟨⟩
          exact hres
        · simp [hmem, h0]
  · refine ⟨{ c with memo := m }, ?_, rfl, rfl, ⟨hc.cache, hm⟩, by simp [hmem]⟩
    simp [table, hmem, hfresh]

theorem table_outcome_tooWide (hc : c.Coherent) (h : maxVariables < c.formula.vars.length)
    (hcache : c.cache = none) : table.outcome c = .error (.tooWide c.formula.vars.length maxVariables) := by
  have h0 : c.formula.vars ≠ [] := fun h0 => by simp [h0, maxVariables] at h
  obtain ⟨m, -, hbuild⟩ := TruthTable.build_value hc.memo
  have hfresh : freshTable.outcome c = .error (.tooWide c.formula.vars.length maxVariables) := by
    simp [freshTable, hbuild, h0, h]
  by_cases hmem : c.memoize = true <;> simp [table, hmem, hcache, hfresh]

theorem cachedRecord_not_mem_freshTable (c : Calculator) : cachedRecord ∉ freshTable.records c := by
  simp only [freshTable, records_bind, outcome_get, records_get, records_lift, List.nil_append,
    outcome_lift, List.mem_append, not_or]
  refine ⟨TruthTable.cachedRecord_not_mem_build _ _, ?_⟩
  rcases (TruthTable.build c.formula c.memo).run.value with e | ⟨r, m⟩ <;> simp

theorem count_table_records (c : Calculator) :
    (table.records c).count cachedRecord = if c.memoize && c.cache.isSome then 1 else 0 := by
  have hfresh := List.count_eq_zero_of_not_mem (cachedRecord_not_mem_freshTable c)
  by_cases hmem : c.memoize = true
  · cases hcache : c.cache with
    | some T => simp [table, hmem, hcache, note, cachedRecord, Traced.note]
    | none =>
      simp only [table, hmem, hcache, records_bind, outcome_get, records_get, if_true,
        List.nil_append, List.count_append, hfresh, Option.isSome_none, Bool.and_false,
        Bool.false_eq_true, if_false, Nat.zero_add]
      rcases freshTable.outcome c with e | ⟨r, c'⟩
      · rfl
      · rcases r with e | T <;> simp
  · simp [table, hmem, hfresh]

/-! ### What each analysis reads -/

theorem throughTable_nonConstantTable : ThroughTable nonConstantTable := by
  unfold nonConstantTable
  refine throughTable_table.bind fun r => ?_
  rcases r with e | T
  · exact ⟨_, answers_pure _⟩
  · dsimp only
    cases T.constantValue? <;> exact ⟨_, answers_pure _⟩

theorem throughTable_fullConjunctive : ThroughTable fullConjunctive := by
  unfold fullConjunctive
  refine throughTable_nonConstantTable.bind fun r => ?_
  rcases r with e | T
  · exact ⟨_, answers_pure _⟩
  · dsimp only
    rcases T.fullConjunctive with p | _ | f
    · exact ⟨_, answers_throw p⟩
    · exact ⟨_, answers_pure _⟩
    · exact ⟨_, (answers_note (by decide)).bind (answers_pure _)⟩

theorem throughTable_fullDisjunctive : ThroughTable fullDisjunctive := by
  unfold fullDisjunctive
  refine throughTable_nonConstantTable.bind fun r => ?_
  rcases r with e | T
  · exact ⟨_, answers_pure _⟩
  · dsimp only
    rcases T.fullDisjunctive with p | _ | f
    · exact ⟨_, answers_throw p⟩
    · exact ⟨_, answers_pure _⟩
    · exact ⟨_, (answers_note (by decide)).bind (answers_pure _)⟩

theorem throughTable_polynomial : ThroughTable polynomial := by
  unfold polynomial
  refine throughTable_nonConstantTable.bind fun r => ?_
  rcases r with e | T
  · exact ⟨_, answers_pure _⟩
  · dsimp only
    cases T.polynomial
    · exact ⟨_, answers_pure _⟩
    · exact ⟨_, (answers_note (by decide)).bind (answers_pure _)⟩

theorem throughTable_primes : ThroughTable primes := by
  unfold primes
  refine throughTable_nonConstantTable.bind fun r => ?_
  rcases r with e | T
  · exact ⟨_, answers_pure _⟩
  · dsimp only
    exact ⟨_, (answers_lift (QuineMcCluskey.cachedRecord_not_mem_primeImplicants _)).bind
      (answers_pure _)⟩

theorem throughTable_minimize : ThroughTable minimize := by
  unfold minimize
  refine throughTable_nonConstantTable.bind fun r => ?_
  rcases r with e | T
  · exact ⟨_, answers_pure _⟩
  · dsimp only
    exact ⟨_, (answers_lift (QuineMcCluskey.cachedRecord_not_mem_primeImplicants _)).bind
      (answers_pure _)⟩

/-! ### Requests -/

/-- A request a client makes on a calculator. -/
inductive Request where
  | table
  | fullConjunctive
  | fullDisjunctive
  | polynomial
  | primes
  | minimize
  | clearCache
  | isCached
deriving DecidableEq

/-- What a request answers. -/
inductive Reply where
  | table (r : Except ConstantFunction TruthTable)
  | form (r : Except ConstantFunction Formula)
  | primes (r : Except ConstantFunction (List Implicant))
  | minimized (f : Formula)
  | cleared
  | cached (b : Bool)

namespace Request

def serve : Request → Session Reply
  | table => do return .table (← Calculator.table)
  | fullConjunctive => do return .form (← Calculator.fullConjunctive)
  | fullDisjunctive => do return .form (← Calculator.fullDisjunctive)
  | polynomial => do return .form (← Calculator.polynomial)
  | primes => do return .primes (← Calculator.primes)
  | minimize => do return .minimized (← Calculator.minimize)
  | clearCache => do Calculator.clearCache; return .cleared
  | isCached => do return .cached (← Calculator.isCached)

def readsTable : Request → Bool
  | clearCache | isCached => false
  | _ => true

/-- The reply of a fresh calculator over `e` that does not memoize. -/
def fresh (e : Formula) (x : Request) : Except Panic Reply :=
  (x.serve.outcome { formula := e, memoize := false }).map Prod.fst

end Request

def serveAll : List Request → Session (List Reply)
  | [] => pure []
  | x :: xs => do
    let r ← x.serve
    let rs ← serveAll xs
    pure (r :: rs)

/-- Whether, in a history of requests, one that reads the table came after the last clearing. -/
def readsSinceClear (hist : List Request) : Bool :=
  hist.foldl (fun b x => if x = .clearCache then false else b || x.readsTable) false

theorem readsSinceClear_concat (hist : List Request) (x : Request) :
    readsSinceClear (hist ++ [x]) = if x = .clearCache then false else readsSinceClear hist || x.readsTable := by
  simp [readsSinceClear, List.foldl_append]

/-- The calculator a history `hist` of requests leaves, started on `e` with memoization `m`: the
formula and the setting are as they were, the cached table is the formula's, and it is there
exactly when a table was built since the last clearing. A formula too wide for a table has had
no table built. -/
structure Tracks (e : Formula) (m : Bool) (hist : List Request) (c : Calculator) : Prop where
  formula_eq : c.formula = e
  memoize_eq : c.memoize = m
  coherent : c.Coherent
  cached : c.cache.isSome = (m && !e.vars.isEmpty && readsSinceClear hist)
  narrow : maxVariables < e.vars.length → readsSinceClear hist = false

theorem tracks_start (e : Formula) (m : Bool) : Tracks e m [] { formula := e, memoize := m } where
  formula_eq := rfl
  memoize_eq := rfl
  coherent := Calculator.coherent_of_fresh rfl rfl
  cached := by simp [readsSinceClear]
  narrow := fun _ => rfl

/-! ### One request, then a whole history -/

variable {e : Formula} {m : Bool} {hist : List Request} {c : Calculator}

theorem throughTable_serve : ∀ x : Request, x.readsTable = true → ThroughTable x.serve
  | .table, _ => throughTable_table.bind fun _ => ⟨_, answers_pure _⟩
  | .fullConjunctive, _ => throughTable_fullConjunctive.bind fun _ => ⟨_, answers_pure _⟩
  | .fullDisjunctive, _ => throughTable_fullDisjunctive.bind fun _ => ⟨_, answers_pure _⟩
  | .polynomial, _ => throughTable_polynomial.bind fun _ => ⟨_, answers_pure _⟩
  | .primes, _ => throughTable_primes.bind fun _ => ⟨_, answers_pure _⟩
  | .minimize, _ => throughTable_minimize.bind fun _ => ⟨_, answers_pure _⟩
  | .clearCache, h | .isCached, h => absurd h (by decide)

theorem serve_ok (hc : c.Coherent) (h : c.formula.vars.length ≤ maxVariables) :
    ∀ x : Request, ∃ r c', x.serve.outcome c = .ok (r, c') := by
  obtain ⟨c₁, ht, -, -⟩ := table_outcome hc h
  obtain ⟨c₂, hn, -, -⟩ := nonConstantTable_outcome hc h
  obtain ⟨a, hn⟩ : ∃ a, nonConstantTable.outcome c = .ok (a, c₂) := ⟨_, hn⟩
  intro x
  cases x with
  | table => simp [Request.serve, ht]
  | fullConjunctive =>
    -- a constant formula stops at its table; another has a clause for each row of its table
    by_cases hk : c.formula.IsConstant
    · obtain ⟨c', hout, -, -⟩ := nonConstantTable_of_isConstant hc h hk
      simp [Request.serve, fullConjunctive, hout]
    · obtain ⟨f, c', hout, -⟩ := fullConjunctive_of_not_isConstant hc h hk
      simp [Request.serve, hout]
  | fullDisjunctive =>
    by_cases hk : c.formula.IsConstant
    · obtain ⟨c', hout, -, -⟩ := nonConstantTable_of_isConstant hc h hk
      simp [Request.serve, fullDisjunctive, hout]
    · obtain ⟨f, c', hout, -⟩ := fullDisjunctive_of_not_isConstant hc h hk
      simp [Request.serve, hout]
  | polynomial =>
    simp only [Request.serve, outcome_bind, polynomial, hn]
    rcases a with e | T
    · simp
    · rcases hp : T.polynomial with _ | f <;> simp [note, hp]
  | primes =>
    simp only [Request.serve, outcome_bind, primes, hn]
    rcases a with e | T <;> simp
  | minimize =>
    simp only [Request.serve, outcome_bind, minimize, hn]
    rcases a with e | T <;> simp
  | clearCache => exact ⟨_, _, rfl⟩
  | isCached => exact ⟨_, _, rfl⟩

theorem serve_reads (hT : Tracks e m hist c) {x : Request} (hx : x.readsTable = true) :
    (x.serve.outcome c).map Prod.fst = x.fresh e ∧
    (∀ r c', x.serve.outcome c = .ok (r, c') → Tracks e m (hist ++ [x]) c') ∧
    (e.vars.length ≤ maxVariables → ∃ r c', x.serve.outcome c = .ok (r, c')) ∧
    (x.serve.records c).count cachedRecord = if c.cache.isSome then 1 else 0 := by
  obtain ⟨g, hg⟩ := throughTable_serve x hx
  have hrec : (x.serve.records c).count cachedRecord = if c.cache.isSome then 1 else 0 := by
    rw [(hg c).2, count_table_records]
    -- a cached table means a memoizing calculator
    have hmem : c.cache.isSome = true → c.memoize = true := fun h => by
      rw [hT.cached, Bool.and_eq_true, Bool.and_eq_true] at h
      rw [hT.memoize_eq]
      exact h.1.1
    cases h : c.cache.isSome
    · simp
    · simp [hmem h]
  have hclear : x ≠ .clearCache := by
    rintro rfl
    exact absurd hx (by decide)
  have hok : e.vars.length ≤ maxVariables → ∃ r c', x.serve.outcome c = .ok (r, c') :=
    fun hw => serve_ok hT.coherent (hT.formula_eq ▸ hw) x
  let d : Calculator := { formula := e, memoize := false }
  by_cases hw : e.vars.length ≤ maxVariables
  · obtain ⟨c₁, ht, hf₁, hm₁, hc₁, hcache₁⟩ := table_outcome_cache hT.coherent (hT.formula_eq ▸ hw)
    obtain ⟨d₁, hd, -⟩ := table_outcome_cache (c := d) (coherent_of_fresh rfl rfl) hw
    have hxc : x.serve.outcome c = (g e.tableResult).map fun r => (r, c₁) := by
      rw [(hg c).1, ht, hT.formula_eq]
      rfl
    have hxd : x.serve.outcome d = (g e.tableResult).map fun r => (r, d₁) := by
      rw [(hg d).1, hd]
      rfl
    refine ⟨?_, ?_, hok, hrec⟩
    · rw [hxc, Request.fresh, hxd]
      rcases g e.tableResult with p | r <;> rfl
    rintro r c' h
    rw [hxc] at h
    rcases hgr : g e.tableResult with p | r'
    · rw [hgr] at h
      cases h
    rw [hgr] at h
    cases h
    refine ⟨hf₁.trans hT.formula_eq, hm₁.trans hT.memoize_eq, hc₁, ?_, fun h => absurd h (not_lt.mpr hw)⟩
    -- the table read now is kept exactly when the calculator memoizes and the formula has variables
    rw [hcache₁, readsSinceClear_concat, if_neg hclear, hx, hT.cached, hT.memoize_eq, hT.formula_eq]
    cases m <;> cases e.vars.isEmpty <;> cases readsSinceClear hist <;> rfl
  · -- too wide: no table was built, so none is cached, and both calculators stop
    have hwide : maxVariables < e.vars.length := not_le.mp hw
    have hcache : c.cache = none := by
      rw [← Option.not_isSome_iff_eq_none, hT.cached, hT.narrow hwide]
      simp
    have hxc : x.serve.outcome c = .error (.tooWide e.vars.length maxVariables) := by
      rw [(hg c).1, table_outcome_tooWide hT.coherent (hT.formula_eq ▸ hwide) hcache, hT.formula_eq]
      rfl
    have hxd : x.serve.outcome d = .error (.tooWide e.vars.length maxVariables) := by
      rw [(hg d).1, table_outcome_tooWide (c := d) (coherent_of_fresh rfl rfl) hwide rfl]
      rfl
    refine ⟨by rw [hxc, Request.fresh, hxd], fun r c' h => ?_, fun h => absurd h hw, hrec⟩
    rw [hxc] at h
    cases h

theorem serve_step (hT : Tracks e m hist c) (x : Request) :
    (x.serve.outcome c).map Prod.fst =
      (if x = .isCached then .ok (.cached (m && !e.vars.isEmpty && readsSinceClear hist))
        else x.fresh e) ∧
    (∀ r c', x.serve.outcome c = .ok (r, c') → Tracks e m (hist ++ [x]) c') ∧
    (e.vars.length ≤ maxVariables → ∃ r c', x.serve.outcome c = .ok (r, c')) ∧
    (x.serve.records c).count cachedRecord = if x.readsTable && c.cache.isSome then 1 else 0 := by
  cases hx : x.readsTable with
  | true =>
    obtain ⟨h₁, h₂, h₃, h₄⟩ := serve_reads hT hx
    have hne : x ≠ .isCached := by
      rintro rfl
      exact absurd hx (by decide)
    exact ⟨by rw [if_neg hne]; exact h₁, h₂, h₃, by rw [h₄, Bool.true_and]⟩
  | false =>
    cases x with
    | clearCache =>
      have hout : Request.clearCache.serve.outcome c = .ok (.cleared, { c with cache := none }) := rfl
      refine ⟨by rw [hout]; rfl, fun r c' h => ?_, fun _ => ⟨_, _, hout⟩, rfl⟩
      rw [hout] at h
      cases h
      exact ⟨hT.formula_eq, hT.memoize_eq, coherent_of_cache_eq_none rfl hT.coherent.memo,
        by simp [readsSinceClear_concat], fun _ => by simp [readsSinceClear_concat]⟩
    | isCached =>
      have hout : Request.isCached.serve.outcome c = .ok (.cached c.cache.isSome, c) := rfl
      have hsame : readsSinceClear (hist ++ [.isCached]) = readsSinceClear hist := by
        simp [readsSinceClear_concat, Request.readsTable]
      refine ⟨by rw [hout, hT.cached]; rfl, fun r c' h => ?_, fun _ => ⟨_, _, hout⟩, rfl⟩
      rw [hout] at h
      cases h
      exact ⟨hT.formula_eq, hT.memoize_eq, hT.coherent, hsame ▸ hT.cached, hsame ▸ hT.narrow⟩
    | _ => exact absurd hx (by decide)

theorem serveAll_tracks :
    ∀ {xs pre : List Request} {c c' : Calculator} {rs : List Reply}, Tracks e m pre c →
      (serveAll xs).outcome c = .ok (rs, c') → Tracks e m (pre ++ xs) c'
  | [], pre, c, c', rs, hT, h => by
    simp only [serveAll, outcome_pure, Except.ok.injEq, Prod.mk.injEq] at h
    obtain ⟨-, rfl⟩ := h
    simpa using hT
  | x :: xs, pre, c, c', rs, hT, h => by
    simp only [serveAll, outcome_bind] at h
    rcases hx : x.serve.outcome c with err | ⟨r, c₁⟩
    · rw [hx] at h
      cases h
    · rw [hx] at h
      rcases hxs : (serveAll xs).outcome c₁ with err | ⟨rs', c₂⟩
      · simp [hxs] at h
      · simp only [hxs, outcome_pure, Except.ok.injEq, Prod.mk.injEq] at h
        obtain ⟨-, rfl⟩ := h
        simpa using serveAll_tracks ((serve_step hT x).2.1 r c₁ hx) hxs

theorem exists_serveAll_ok (hw : e.vars.length ≤ maxVariables) :
    ∀ (xs : List Request) {pre : List Request} {c : Calculator}, Tracks e m pre c →
      ∃ rs c', (serveAll xs).outcome c = .ok (rs, c')
  | [], _, c, _ => ⟨[], c, rfl⟩
  | x :: xs, pre, c, hT => by
    obtain ⟨r, c₁, hx⟩ := (serve_step hT x).2.2.1 hw
    obtain ⟨rs, c₂, hxs⟩ := exists_serveAll_ok hw xs ((serve_step hT x).2.1 r c₁ hx)
    exact ⟨r :: rs, c₂, by simp [serveAll, hx, hxs]⟩

/-- Memoizing the table is invisible. After any history of requests that runs through on a
calculator over `e` with memoization `m`, the calculator still holds `e`, and the next request
answers as it would on a fresh calculator that does not memoize, except that asking for the
cache answers whether `m` is on, `e` has variables and a request read the table since the last
clearing; a table is cached exactly then. The `truth table: cached` record is left by exactly
the requests that read the table while one is cached. -/
theorem memoization_invisible (e : Formula) (m : Bool) (hist : List Request) (rs : List Reply)
    (c : Calculator) (hrun : (serveAll hist).outcome { formula := e, memoize := m } = .ok (rs, c))
    (x : Request) :
    c.formula = e ∧
    c.cache.isSome = (m && !e.vars.isEmpty && readsSinceClear hist) ∧
    (x.serve.outcome c).map Prod.fst =
      (if x = .isCached then .ok (.cached (m && !e.vars.isEmpty && readsSinceClear hist))
        else x.fresh e) ∧
    (x.serve.records c).count cachedRecord =
      if x.readsTable && m && !e.vars.isEmpty && readsSinceClear hist then 1 else 0 := by
  have hT : Tracks e m hist c := by simpa using serveAll_tracks (tracks_start e m) hrun
  obtain ⟨hreply, -, -, hcount⟩ := serve_step hT x
  refine ⟨hT.formula_eq, hT.cached, hreply, ?_⟩
  rw [hcount, hT.cached]
  simp only [Bool.and_assoc]

theorem memoization_invisible_rebuilt :
    ∃ rs c, (serveAll [.fullDisjunctive, .clearCache, .table]).outcome
        { formula := .bin .and (.var ⟨'a', rfl⟩) (.var ⟨'b', rfl⟩), memoize := true } = .ok (rs, c) ∧
      c.formula = .bin .and (.var ⟨'a', rfl⟩) (.var ⟨'b', rfl⟩) ∧
      c.cache.isSome = (true && !(Formula.vars (.bin .and (.var ⟨'a', rfl⟩) (.var ⟨'b', rfl⟩))).isEmpty &&
        readsSinceClear [.fullDisjunctive, .clearCache, .table]) ∧
      (Request.primes.serve.outcome c).map Prod.fst =
        (if Request.primes = .isCached then
          .ok (.cached (true && !(Formula.vars (.bin .and (.var ⟨'a', rfl⟩) (.var ⟨'b', rfl⟩))).isEmpty &&
            readsSinceClear [.fullDisjunctive, .clearCache, .table]))
        else Request.primes.fresh (.bin .and (.var ⟨'a', rfl⟩) (.var ⟨'b', rfl⟩))) ∧
      (Request.primes.serve.records c).count cachedRecord =
        if Request.primes.readsTable && true &&
          !(Formula.vars (.bin .and (.var ⟨'a', rfl⟩) (.var ⟨'b', rfl⟩))).isEmpty &&
          readsSinceClear [.fullDisjunctive, .clearCache, .table] then 1 else 0 := by
  obtain ⟨rs, c, h⟩ := exists_serveAll_ok (by decide) [.fullDisjunctive, .clearCache, .table]
    (tracks_start (.bin .and (.var ⟨'a', rfl⟩) (.var ⟨'b', rfl⟩)) true)
  exact ⟨rs, c, h, memoization_invisible _ true _ rs c h .primes⟩

end Calculator

end PropCalc
