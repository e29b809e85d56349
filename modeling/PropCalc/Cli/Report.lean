import PropCalc.Cli.Options
import PropCalc.Calculator
import PropCalc.Dot
import PropCalc.Syntax.Grammar
import PropCalc.Formula.Render

namespace PropCalc.Cli

/-- One line of a report: printed text, a log record, or the closing line with the time taken. -/
inductive Entry where
  | say (line : String)
  | log (r : Record)
  | elapsed

/-- Where writing the DOT file lands: the name it gets in the working directory (none when it
lands elsewhere), or the error text. -/
abbrev Writer := String → Except String (Option String)

/-- The whole result of a run: its transcript, the files it wrote, and its failure if any. -/
structure Outcome where
  entries : List Entry
  files : List (String × String)
  failure : Option String

abbrev Script := ExceptT String (StateM (List Entry × List (String × String)))

namespace Script

def emit (es : List Entry) : Script Unit := modify fun s => (s.1 ++ es, s.2)

def say (line : String) : Script Unit := emit [.say line]

def traced {α : Type} (t : Traced α) : Script α := do
  emit (t.records.map .log)
  pure t.value

def perform {α : Type} (c : Calculator) (s : Session α) : Script (α × Calculator) := do
  match ← traced (s.run c).run with
  | .ok p => pure p
  | .error e => throw e.message

end Script

open Script in
def report (o : Options) (writer : Writer) : Script Unit := do
  let f ← match ← traced (Formula.read o.formula) with
    | .ok f => pure f
    | .error e => throw e.message
  say ("expression: " ++ f.render)
  say ("tree: " ++ f.treeText)
  if let some path := o.dot then
    match writer path with
    | .error e => throw e
    | .ok name =>
      modify fun s => (s.1, s.2 ++ (name.map fun n => (n, f.dot)).toList)
      say ("DOT written to " ++ path)
  let (vs, memo) ← match ← traced (f.variablesIn {}).run with
    | .ok p => pure p
    | .error e => throw e.message
  if maxVariables < vs.length then
    throw (toString vs.length ++ " variables, at most " ++ toString maxVariables ++ " are supported")
  let c : Calculator := { formula := f, memo := memo, memoize := o.memoize }
  let (table, c) ← perform c Calculator.table
  match table with
  | .ok t => emit ((t.render.splitOn "\n").dropLast.map .say)
  | .error e => say ("truth table: " ++ e.message)
  let (cnf, c) ← perform c Calculator.fullConjunctive
  say ("FCNF: " ++ match cnf with | .ok g => g.render | .error e => e.message)
  let (dnf, c) ← perform c Calculator.fullDisjunctive
  say ("FDNF: " ++ match dnf with | .ok g => g.render | .error e => e.message)
  let (poly, c) ← perform c Calculator.polynomial
  say ("Zhegalkin: " ++ match poly with | .ok g => g.render | .error e => e.message)
  let (primes, c) ← perform c Calculator.primes
  if let .ok ps := primes then
    say ("prime implicants: " ++ " ".intercalate (ps.map Implicant.text))
  let (minimized, _) ← perform c Calculator.minimize
  say ("minimized: " ++ minimized.render)
  say ""
  emit [.elapsed]

def Outcome.ofOptions (o : Options) (writer : Writer) : Outcome :=
  let (result, entries, files) := ((report o writer).run.run ([], [])).run
  { entries, files, failure := match result with | .ok _ => none | .error e => some e }

def elapsedText (ms : Nat) : String :=
  let frac := toString (ms % 1000)
  toString (ms / 1000) ++ "." ++ String.ofList (List.replicate (3 - frac.length) '0') ++ frac

namespace Outcome

def stdout (out : Outcome) (level : LogLevel) (time : String) : String :=
  String.join (out.entries.map fun e => match e with
    | .say line => line ++ "\n"
    | .log r => if r.shownAt level.rank then r.terminalLine ++ "\n" else ""
    | .elapsed => "All done in " ++ time ++ " s\n")

def exitCode (out : Outcome) : Nat := if out.failure.isSome then 1 else 0

end Outcome

end PropCalc.Cli
