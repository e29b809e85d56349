namespace PropCalc

/-- How detailed a record is: debug records summarise a stage, trace records follow single steps. -/
inductive Level where
  | debug
  | trace
deriving DecidableEq, Repr

/-- The part of the library that emits a record. -/
inductive Topic where
  | lexer
  | grammar
  | eval
  | table
  | calculator
  | forms
  | zhegalkin
  | minimize
deriving DecidableEq, Repr

/-- One log record. -/
structure Record where
  level : Level
  topic : Topic
  message : String
deriving DecidableEq, Repr

namespace Level

def label : Level → String
  | debug => "DEBUG"
  | trace => "TRACE"

/-- Rank in the usual severity scale `off < error < warn < info < debug < trace`. -/
def rank : Level → Nat
  | debug => 4
  | trace => 5

end Level

namespace Topic

def target : Topic → String
  | lexer => "boolcalc_rs::lexer"
  | grammar => "boolcalc_rs::grammar"
  | eval => "boolcalc_rs::eval"
  | table => "boolcalc_rs::table"
  | calculator => "boolcalc_rs::calculator"
  | forms => "boolcalc_rs::forms"
  | zhegalkin => "boolcalc_rs::zhegalkin"
  | minimize => "boolcalc_rs::minimize"

end Topic

namespace Record

def line (r : Record) : String :=
  r.level.label ++ " " ++ r.topic.target ++ ": " ++ r.message

def terminalLine (r : Record) : String :=
  "[" ++ r.level.label ++ "] " ++ r.topic.target ++ ": " ++ r.message

def shownAt (r : Record) (verbosity : Nat) : Bool :=
  decide (r.level.rank ≤ verbosity)

end Record

/-- A value together with the records emitted while computing it. -/
structure Traced (α : Type) where
  value : α
  records : List Record

namespace Traced

instance {α : Type} [Inhabited α] : Inhabited (Traced α) := ⟨⟨default, []⟩⟩

instance : Monad Traced where
  pure a := ⟨a, []⟩
  bind x f := let y := f x.value; ⟨y.value, x.records ++ y.records⟩

def note (level : Level) (topic : Topic) (message : String) : Traced Unit :=
  ⟨(), [⟨level, topic, message⟩]⟩

def debug (topic : Topic) (message : String) : Traced Unit := note .debug topic message

def trace (topic : Topic) (message : String) : Traced Unit := note .trace topic message

@[simp] theorem pure_value {α : Type} (a : α) : (pure a : Traced α).value = a := rfl

@[simp] theorem pure_records {α : Type} (a : α) : (pure a : Traced α).records = [] := rfl

@[simp] theorem bind_value {α β : Type} (x : Traced α) (f : α → Traced β) :
    (x >>= f).value = (f x.value).value := rfl

@[simp] theorem bind_records {α β : Type} (x : Traced α) (f : α → Traced β) :
    (x >>= f).records = x.records ++ (f x.value).records := rfl

@[simp] theorem map_value {α β : Type} (f : α → β) (x : Traced α) : (f <$> x).value = f x.value :=
  rfl

@[simp] theorem map_records {α β : Type} (f : α → β) (x : Traced α) :
    (f <$> x).records = x.records :=
  List.append_nil x.records

section Failing

variable {ε α β : Type}

@[simp] theorem exceptLift_value (x : Traced α) : (ExceptT.lift x : ExceptT ε Traced α).run.value = .ok x.value :=
  rfl

@[simp] theorem exceptLift_records (x : Traced α) :
    (ExceptT.lift x : ExceptT ε Traced α).run.records = x.records :=
  map_records _ x

@[simp] theorem exceptPure_value (a : α) : (pure a : ExceptT ε Traced α).run.value = .ok a := rfl

@[simp] theorem exceptPure_records (a : α) : (pure a : ExceptT ε Traced α).run.records = [] := rfl

@[simp] theorem exceptThrow_value (e : ε) : (throw e : ExceptT ε Traced α).run.value = .error e := rfl

@[simp] theorem exceptThrow_records (e : ε) : (throw e : ExceptT ε Traced α).run.records = [] := rfl

@[simp] theorem exceptBind_value (x : ExceptT ε Traced α) (f : α → ExceptT ε Traced β) :
    (x >>= f).run.value = match x.run.value with
      | .ok a => (f a).run.value
      | .error e => .error e := by
  show (x.run >>= _).value = _
  rw [bind_value]
  rcases x.run.value with e | a <;> rfl

@[simp] theorem exceptBind_records (x : ExceptT ε Traced α) (f : α → ExceptT ε Traced β) :
    (x >>= f).run.records = x.run.records ++ match x.run.value with
      | .ok a => (f a).run.records
      | .error _ => [] := by
  show (x.run >>= _).records = _
  rw [bind_records]
  rcases x.run.value with e | a <;> rfl

end Failing

end Traced

/-- A check of the library that failed: it stops the whole computation. -/
inductive Panic where
  | tooWide (count limit : Nat)
  | failed (message : String)
deriving DecidableEq

namespace Panic

def message : Panic → String
  | tooWide count limit =>
    "truth table over " ++ toString count ++ " variables exceeds the limit of " ++ toString limit
  | failed message => message

end Panic

end PropCalc
