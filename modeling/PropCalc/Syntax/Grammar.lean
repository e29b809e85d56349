import PropCalc.Syntax.Lexer
import PropCalc.Formula.Basic

namespace PropCalc

abbrev Tokens := List (Token Tag)

namespace Grammar

abbrev Read (ts : Tokens) := Option {p : Formula × Tokens // p.2.length < ts.length}

def isOperator (t : Token Tag) (s : String) : Bool := t.tag == .operator && t.lexeme == s

def atom (t : Token Tag) : Option Formula :=
  match t.tag with
  | .constant => if t.lexeme == "0" then some (.const false)
    else if t.lexeme == "1" then some (.const true) else none
  | .var => (Var.ofLexeme? t.lexeme).map .var
  | .operator => none

def connectiveAt (k : Nat) (t : Token Tag) : Option Connective :=
  if t.tag == .operator then Connective.spelledAt? k t.lexeme else none

mutual

def term : (ts : Tokens) → Read ts
  | [] => none
  | t :: rest =>
    if isOperator t "-" then
      match term rest with
      | some ⟨(a, r), h⟩ => some ⟨(.neg a, r), by dsimp only at h; simp only [List.length_cons]; omega⟩
      | none => none
    else if isOperator t "(" then
      match level 3 rest with
      | some ⟨(e, u :: r), h⟩ =>
        if isOperator u ")" then some ⟨(e, r), by dsimp only at h; simp only [List.length_cons] at h ⊢; omega⟩
        else none
      | _ => none
    else (atom t).map fun f => ⟨(f, rest), by simp⟩
termination_by ts => (ts.length, 0)
decreasing_by
  all_goals
    simp_wf
    simp only [Prod.lex_def] at *
    try dsimp only at *  -- match hypotheses may hold unreduced pairs
    omega

def level : Nat → (ts : Tokens) → Read ts
  | 0, ts => term ts
  | k + 1, ts =>
    match level k ts with
    | none => none
    | some ⟨(a, r), h⟩ =>
      let p := fold k a r
      some ⟨p.1, by have := p.2; dsimp only at h; omega⟩
termination_by k ts => (ts.length, k + 1)
decreasing_by
  all_goals
    simp_wf
    simp only [Prod.lex_def, true_and] at *
    try dsimp only at *  -- match hypotheses may hold unreduced pairs
    omega

/-- Continue a fold of tier `k + 1` connectives over operands of level `k`, from `acc`. -/
def fold (k : Nat) (acc : Formula) : (ts : Tokens) → {p : Formula × Tokens // p.2.length ≤ ts.length}
  | [] => ⟨(acc, []), Nat.le_refl _⟩
  | t :: rest =>
    match connectiveAt (k + 1) t with
    | none => ⟨(acc, t :: rest), Nat.le_refl _⟩
    | some op =>
      match level k rest with
      | none => ⟨(acc, t :: rest), Nat.le_refl _⟩
      | some ⟨(b, r), h⟩ =>
        let p := fold k (.bin op acc b) r
        ⟨p.1, by have := p.2; dsimp only at h; simp only [List.length_cons]; omega⟩
termination_by ts => (ts.length, k + 1)
decreasing_by
  all_goals
    simp_wf
    simp only [Prod.lex_def] at *
    try dsimp only at *  -- match hypotheses may hold unreduced pairs
    omega

end

def expression (ts : Tokens) : Read ts := level 3 ts

end Grammar

/-- Why a token sequence is not a formula. -/
inductive ParseError where
  | empty
  | unexpected (position : Nat) (lexeme : String)
  | incomplete (count : Nat)
deriving DecidableEq

namespace ParseError

def message : ParseError → String
  | empty => "empty expression"
  | unexpected p l => "unexpected token " ++ Text.quoteString l ++ " at token position " ++ toString p
  | incomplete n => "cannot parse expression from " ++ toString n ++ " tokens"

end ParseError

namespace Grammar

def parse (ts : Tokens) : Traced (Except ParseError Formula) :=
  match ts with
  | [] => pure (.error .empty)
  | _ :: _ =>
    match expression ts with
    | some ⟨(e, []), _⟩ => do
      Traced.debug .grammar ("parsed " ++ toString ts.length ++ " tokens")
      pure (.ok e)
    | some ⟨(_, r), _⟩ => do
      let err := ParseError.unexpected (ts.length - r.length) ((r.head?.map Token.lexeme).getD "")
      Traced.debug .grammar ("parse failed: " ++ err.message)
      pure (.error err)
    | none => do
      let err := ParseError.incomplete ts.length
      Traced.debug .grammar ("parse failed: " ++ err.message)
      pure (.error err)

def readAt (reader : (ts : Tokens) → Read ts) (ts : Tokens) (position : Nat) : Option (Formula × Nat) :=
  (reader (ts.drop position)).map fun p => (p.1.1, ts.length - p.1.2.length)

end Grammar

/-- Why a text is not a formula. -/
inductive SyntaxError where
  | lex (e : LexError)
  | parse (e : ParseError)

namespace SyntaxError

def message : SyntaxError → String
  | lex e => e.message
  | parse e => e.message

end SyntaxError

namespace Formula

def read (text : String) : Traced (Except SyntaxError Formula) := do
  match ← lex text with
  | .error e => pure (.error (.lex e))
  | .ok ts =>
    match ← Grammar.parse ts with
    | .error e => pure (.error (.parse e))
    | .ok f => pure (.ok f)

end Formula

end PropCalc
