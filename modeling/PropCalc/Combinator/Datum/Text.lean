import PropCalc.Combinator.Datum
import PropCalc.Decimal.Shortest

namespace PropCalc.Datum

def hexDigit (n : Nat) : Char := if n < 10 then Char.ofNat (48 + n) else Char.ofNat (87 + n)

/-- The escaped form of one character of a string. -/
def escape (c : Char) : List Char :=
  match c with
  | '"' => ['\\', '"']
  | '\\' => ['\\', '\\']
  | '\n' => ['\\', 'n']
  | '\r' => ['\\', 'r']
  | '\t' => ['\\', 't']
  | c =>
    if c.toNat == 8 then ['\\', 'b']
    else if c.toNat == 12 then ['\\', 'f']
    else if c.toNat < 32 then ['\\', 'u', '0', '0', hexDigit (c.toNat / 16), hexDigit (c.toNat % 16)]
    else [c]

def quote (s : String) : String := String.ofList ('"' :: s.toList.flatMap escape ++ ['"'])

mutual

def render : Datum → String
  | null => "null"
  | bool b => toString b
  | int n => toString n
  | float x => Decimal.text x
  | str s => quote s
  | arr xs => "[" ++ renderItems xs ++ "]"
  | obj fs => "\x7b" ++ renderFields fs ++ "\x7d"

def renderItems : List Datum → String
  | [] => ""
  | [x] => render x
  | x :: xs => render x ++ "," ++ renderItems xs

/-- The members of an object, separated by commas. -/
def renderFields : List (String × Datum) → String
  | [] => ""
  | [f] => renderField f
  | f :: fs => renderField f ++ "," ++ renderFields fs

def renderField : String × Datum → String
  | (k, v) => quote k ++ ":" ++ render v

end

end PropCalc.Datum
