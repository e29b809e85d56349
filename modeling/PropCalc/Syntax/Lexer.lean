import PropCalc.Syntax.Token
import PropCalc.Text.Quote
import PropCalc.Journal

namespace PropCalc

/-- A character that no rule accepts, at a position counted in characters. -/
structure LexError where
  char : Char
  position : Nat
deriving DecidableEq

namespace LexError

def message (e : LexError) : String :=
  "illegal character " ++ Text.quoteChar e.char ++ " at position " ++ toString e.position

end LexError

/-- One rule of a lexer: the length of its match at the start of a text, `0` for none. -/
structure LexRule (τ : Type) where
  munch : List Char → Nat
  tag : Option τ

/-- A lexer: its rules in order, and how its tags are written in log records. -/
structure Lexer (τ : Type) where
  rules : List (LexRule τ)
  showTag : τ → String

namespace Lexer

variable {τ : Type}

def firstMatch (rules : List (LexRule τ)) (cs : List Char) : Option ({n : Nat // 0 < n} × Option τ) :=
  rules.findSome? fun r =>
    let n := r.munch cs
    if h : 0 < n then some (⟨n, h⟩, r.tag) else none

def tokenMessage (lx : Lexer τ) (t : Token τ) (byte : Nat) : String :=
  "lex: (" ++ Text.quoteString t.lexeme ++ ", " ++ lx.showTag t.tag ++ ") at byte " ++ toString byte

def scan (lx : Lexer τ) (cs : List Char) (pos byte : Nat) : Traced (Except LexError (List (Token τ))) :=
  match cs with
  | [] => pure (.ok [])
  | c :: rest =>
    match firstMatch lx.rules (c :: rest) with
    | none => pure (.error ⟨c, pos⟩)
    | some (⟨n, _⟩, tag) => do
      let text := (c :: rest).take n
      let next := text.foldl (fun b c => b + c.utf8Size) byte
      match tag with
      | none => lx.scan ((c :: rest).drop n) (pos + n) next
      | some tg =>
        let t : Token τ := ⟨String.ofList text, tg⟩
        Traced.trace .lexer (lx.tokenMessage t byte)
        let r ← lx.scan ((c :: rest).drop n) (pos + n) next
        pure (r.map (t :: ·))
termination_by cs.length
decreasing_by
  all_goals
    rw [List.length_drop]
    have : (c :: rest).length = rest.length + 1 := rfl
    omega

def tokenize (lx : Lexer τ) (text : String) : Traced (Except LexError (List (Token τ))) :=
  lx.scan text.toList 0 0

end Lexer

namespace LexRule

def blanks : List Char → Nat := fun cs => (cs.takeWhile fun c => c == ' ' || c == '\t' || c == '\r' || c == '\n').length

def exact (s : String) : List Char → Nat := fun cs =>
  if cs.take s.length == s.toList then s.length else 0

def oneOf (set : List Char) : List Char → Nat
  | c :: _ => if set.contains c then 1 else 0
  | [] => 0

def letter : List Char → Nat
  | c :: _ => if c.isAlpha then 1 else 0
  | [] => 0

end LexRule

namespace Lexer

def builtin : Lexer Tag where
  rules := [
    ⟨LexRule.blanks, none⟩,
    ⟨LexRule.exact "<->", some .operator⟩,
    ⟨LexRule.exact "->", some .operator⟩,
    ⟨LexRule.exact "-", some .operator⟩,
    ⟨LexRule.oneOf ['&', '*'], some .operator⟩,
    ⟨LexRule.exact "/", some .operator⟩,
    ⟨LexRule.oneOf ['V', '+'], some .operator⟩,
    ⟨LexRule.exact "!", some .operator⟩,
    ⟨LexRule.exact "^", some .operator⟩,
    ⟨LexRule.oneOf ['(', ')'], some .operator⟩,
    ⟨LexRule.oneOf ['0', '1'], some .constant⟩,
    ⟨LexRule.letter, some .var⟩]
  showTag := Tag.name

end Lexer

def lex (text : String) : Traced (Except LexError (List (Token Tag))) :=
  Lexer.builtin.tokenize text

end PropCalc
