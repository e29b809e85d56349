import PropCalc.Pattern.Machine
import PropCalc.Syntax.Lexer

namespace PropCalc

open Pattern

namespace LexRule

/-- A rule from a compiled pattern: the end of its match in the text, or `0` when there is no
match or only an empty one. -/
def ofProgram {τ : Type} (p : Program) (tag : Option τ) : LexRule τ where
  munch cs :=
    match p.find cs with
    | some (start, stop) => if start < stop then stop else 0
    | none => 0
  tag := tag

end LexRule

namespace Lexer

def anchored (pattern : String) : String := "\\A(?:" ++ pattern ++ ")"

def ofPatterns {τ : Type} (rules : List (String × Option τ)) (showTag : τ → String) :
    Except PatternError (Lexer τ) := do
  let rs ← rules.mapM fun r => do
    let prog ← Program.ofPattern (anchored r.1)
    pure (LexRule.ofProgram prog r.2)
  pure { rules := rs, showTag := showTag }

def numberTags {α : Type} : List (String × Option α) → Nat → List (String × Option Nat)
  | [], _ => []
  | (p, none) :: rest, n => (p, none) :: numberTags rest n
  | (p, some _) :: rest, n => (p, some n) :: numberTags rest (n + 1)

def size {τ : Type} (lx : Lexer τ) : Nat := lx.rules.length

def isEmpty {τ : Type} (lx : Lexer τ) : Bool := lx.rules.isEmpty

end Lexer

end PropCalc
