import PropCalc.Unicode.Printable

namespace PropCalc.Text

def hex (n : Nat) : String := String.ofList (Nat.toDigits 16 n)

/-- The escaped form of one character inside quotes; `inString` tells which quote encloses it. -/
def escapeChar (inString : Bool) (c : Char) : String :=
  if c = '\x00' then "\\0"
  else if c = '\t' then "\\t"
  else if c = '\r' then "\\r"
  else if c = '\n' then "\\n"
  else if c = '\\' then "\\\\"
  else if c = '"' then (if inString then "\\\"" else "\"")
  else if c = '\'' then (if inString then "'" else "\\'")
  else if Unicode.isGraphemeExtend c || !Unicode.isPrintable c then
    "\\u\x7b" ++ hex c.toNat ++ "\x7d"
  else c.toString

def quoteChar (c : Char) : String := "'" ++ escapeChar false c ++ "'"

def quoteString (s : String) : String :=
  "\"" ++ String.join (s.toList.map (escapeChar true)) ++ "\""

end PropCalc.Text
