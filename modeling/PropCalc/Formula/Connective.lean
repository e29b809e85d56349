namespace PropCalc

/-- The binary connectives of the language. -/
inductive Connective where
  | and
  | or
  | xor
  | nand
  | nor
  | imply
  | iff
deriving DecidableEq, Repr

namespace Connective

def all : List Connective := [and, or, xor, nand, nor, imply, iff]

def apply : Connective → Bool → Bool → Bool
  | and, a, b => a && b
  | or, a, b => a || b
  | xor, a, b => a != b
  | nand, a, b => !(a && b)
  | nor, a, b => !(a || b)
  | imply, a, b => !a || b
  | iff, a, b => a == b

def spellings : Connective → List String
  | and => ["&", "*"]
  | or => ["V", "+"]
  | xor => ["^"]
  | nand => ["/"]
  | nor => ["!"]
  | imply => ["->"]
  | iff => ["<->"]

def symbol : Connective → String
  | and => "&"
  | or => "V"
  | xor => "^"
  | nand => "/"
  | nor => "!"
  | imply => "->"
  | iff => "<->"

def name : Connective → String
  | and => "AND"
  | or => "OR"
  | xor => "XOR"
  | nand => "NAND"
  | nor => "NOR"
  | imply => "IMPLY"
  | iff => "EQ"

def ofName? (s : String) : Option Connective := all.find? (fun c => c.name == s)

def tier : Connective → Nat
  | and | nand => 1
  | or | nor => 2
  | xor | imply | iff => 3

def precedence (c : Connective) : Nat := 4 - c.tier

/-- The connective of tier `k` that a lexeme spells, if any. Spellings of different
connectives never coincide, so the order of the search does not matter. -/
def spelledAt? (k : Nat) (lexeme : String) : Option Connective :=
  [and, nand, or, nor, xor, imply, iff].find? (fun c => c.tier == k && c.spellings.contains lexeme)

theorem symbol_mem_spellings (c : Connective) : c.symbol ∈ c.spellings := by
  cases c <;> simp [symbol, spellings]

end Connective

end PropCalc
