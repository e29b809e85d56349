import PropCalc.Pattern.CharSet
import PropCalc.Unicode.Classes

namespace PropCalc.Pattern

/-- Why a pattern is refused. -/
inductive PatternError where
  | unclosedGroup
  | unopenedGroup
  | missingRepetition
  | badRepetition
  | unclosedClass
  | badClassRange
  | badEscape
  | badFlags
  | badGroupName
  | unsupported
  | unknownProperty
  | notText
  | tooBig
  | tooDeep
deriving DecidableEq, Inhabited, Repr

/-- The flags in force at a point of a pattern. -/
structure Flags where
  caseless : Bool := false
  multiLine : Bool := false
  dotAll : Bool := false
  swapGreed : Bool := false
  unicode : Bool := true
  crlf : Bool := false
  verbose : Bool := false
deriving DecidableEq, Inhabited

namespace Flags

def set (f : Flags) (on : Bool) (c : Char) : Flags :=
  match c with
  | 'i' => { f with caseless := on }
  | 'm' => { f with multiLine := on }
  | 's' => { f with dotAll := on }
  | 'U' => { f with swapGreed := on }
  | 'u' => { f with unicode := on }
  | 'R' => { f with crlf := on }
  | 'x' => { f with verbose := on }
  | _ => f

def applyAll (f : Flags) (items : List (Bool × Char)) : Flags :=
  items.foldl (fun g p => g.set p.1 p.2) f

def fold (f : Flags) (s : CharSet) : CharSet :=
  if f.caseless then (if f.unicode then s.foldCase else s.foldAscii) else s

def foldNegate (f : Flags) (negated : Bool) (s : CharSet) : Except PatternError CharSet :=
  let s := f.fold s
  let s := if negated then (if f.unicode then s.complement else s.complementWithin 0xFF) else s
  if !f.unicode && !s.isAscii then .error .notText else .ok s

end Flags

def skipComment : List Char → List Char
  | [] => []
  | c :: rest => if c = '\n' then rest else skipComment rest

theorem length_skipComment (cs : List Char) : (skipComment cs).length ≤ cs.length := by
  induction cs with
  | nil => simp [skipComment]
  | cons c rest ih =>
    simp only [skipComment]
    split
    · simp
    · simp only [List.length_cons]; omega

def skipBlank (cs : List Char) : List Char :=
  match cs with
  | [] => []
  | c :: rest =>
    if Unicode.isSpace c then skipBlank rest
    else if c = '#' then skipBlank (skipComment rest)
    else c :: rest
termination_by cs.length
decreasing_by
  · simp only [List.length_cons]; omega
  · have := length_skipComment rest
    simp only [List.length_cons]; omega

theorem length_skipBlank (cs : List Char) : (skipBlank cs).length ≤ cs.length := by
  fun_induction skipBlank cs with
  | case1 => simp
  | case2 c rest _ ih => simp only [List.length_cons]; omega
  | case3 rest _ ih => have := length_skipComment rest; simp only [List.length_cons]; omega
  | case4 => simp

def skipSpace (verbose : Bool) (cs : List Char) : List Char :=
  if verbose then skipBlank cs else cs

theorem length_skipSpace (verbose : Bool) (cs : List Char) :
    (skipSpace verbose cs).length ≤ cs.length := by
  unfold skipSpace
  split
  · exact length_skipBlank cs
  · exact Nat.le_refl _

/-- The next character after blanks and comments, as the class reader peeks at it: inside a
comment the first character that is not blank is taken, and when only blanks follow, the
character right after is. -/
def peekSpace (verbose : Bool) (cs : List Char) : Option Char :=
  let rec go (inComment : Bool) : List Char → Option Char
    | [] => none
    | c :: rest =>
      if Unicode.isSpace c then go inComment rest
      else if !inComment && c = '#' then go true rest
      else if inComment && c = '\n' then go false rest
      else some c
  if verbose then (go false cs).orElse fun _ => cs.head? else cs.head?

end PropCalc.Pattern
