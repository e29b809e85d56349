import PropCalc.Text.Quote

namespace PropCalc

/-- A propositional variable, named by one ASCII letter. -/
structure Var where
  name : Char
  letter : name.isAlpha = true

namespace Var

instance : DecidableEq Var := fun a b =>
  if h : a.name = b.name then isTrue (by cases a; cases b; simp_all)
  else isFalse (fun e => h (congrArg Var.name e))

def ofChar? (c : Char) : Option Var :=
  if h : c.isAlpha = true then some ⟨c, h⟩ else none

/-- A lexeme names a variable exactly when it is one ASCII letter. -/
def ofLexeme? (s : String) : Option Var :=
  match s.toList with
  | [c] => ofChar? c
  | _ => none

def text (v : Var) : String := v.name.toString

def refusal (c : Char) : String := "Variable names must be ASCII letters, got " ++ Text.quoteChar c

def lt (a b : Var) : Bool := decide (a.name.val < b.name.val)

theorem ofChar?_name (v : Var) : ofChar? v.name = some v := by
  simp [ofChar?, v.letter]

end Var

abbrev VarSet := List Var

namespace VarSet

def insert (v : Var) : VarSet → VarSet
  | [] => [v]
  | w :: ws =>
    if Var.lt v w then v :: w :: ws
    else if v = w then w :: ws
    else w :: insert v ws

def union (s t : VarSet) : VarSet := t.foldl (fun acc v => insert v acc) s

def ofList (vs : List Var) : VarSet := union [] vs

end VarSet

end PropCalc
