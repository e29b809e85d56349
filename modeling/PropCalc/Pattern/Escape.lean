import PropCalc.Pattern.Flags
import PropCalc.Pattern.Regex
import PropCalc.Pattern.Property

namespace PropCalc.Pattern

def hexDigit? (c : Char) : Option Nat :=
  if '0' ≤ c ∧ c ≤ '9' then some (c.toNat - '0'.toNat)
  else if 'a' ≤ c ∧ c ≤ 'f' then some (c.toNat - 'a'.toNat + 10)
  else if 'A' ≤ c ∧ c ≤ 'F' then some (c.toNat - 'A'.toNat + 10)
  else none

def scalar? (n : Nat) : Option Char :=
  if n.isValidChar then some (Char.ofNat n) else none

def hexFixed (x : Bool) : Nat → Nat → List Char → Except PatternError (Nat × List Char)
  | 0, acc, cs => .ok (acc, cs)
  | k + 1, acc, c :: rest =>
    match hexDigit? c with
    | some d => hexFixed x k (acc * 16 + d) (skipSpace x rest)
    | none => .error .badEscape
  | _ + 1, _, [] => .error .badEscape

def hexBrace (x : Bool) (digits : List Nat) (cs : List Char) : Except PatternError (List Nat × List Char) :=
  match cs with
  | [] => .error .badEscape
  | c :: rest =>
    if c = '}' then .ok (digits, skipSpace x rest)
    else match hexDigit? c with
      | some d => hexBrace x (digits ++ [d]) (skipSpace x rest)
      | none => .error .badEscape
termination_by cs.length
decreasing_by
  have := length_skipSpace x rest
  simp only [List.length_cons]; omega

/-- The code point of a hexadecimal escape, and whether it was written with braces; `cs` starts
after `x`, `u` or `U`. -/
def hexEscape (x : Bool) (width : Nat) (cs : List Char) : Except PatternError (Char × Bool × List Char) := do
  let cs := skipSpace x cs
  match cs with
  | [] => .error .badEscape
  | '{' :: rest =>
    let (digits, rest) ← hexBrace x [] (skipSpace x rest)
    if digits.isEmpty then .error .badEscape
    let n := digits.foldl (fun acc d => acc * 16 + d) 0
    match scalar? n with
    | some c => .ok (c, true, rest)
    | none => .error .badEscape
  | _ =>
    let (n, rest) ← hexFixed x width 0 cs
    match scalar? n with
    | some c => .ok (c, false, skipSpace x rest)
    | none => .error .badEscape

/-- What an escape stands for. -/
inductive Escape where
  | lit (c : Char) (byte : Bool)
  | set (s : CharSet)
  | look (l : Look)

def isMeta (c : Char) : Bool := "\\.+*?()|[]\x7b\x7d^$#&-~".toList.contains c

def isEscapable (c : Char) : Bool :=
  isMeta c || (c.toNat ≤ 0x7F && !c.isAlphanum && c != '<' && c != '>')

def shorthandClass (f : Flags) (c : Char) : Except PatternError CharSet :=
  let lower := c.toLower
  let s : CharSet :=
    if f.unicode then
      if lower = 'd' then CharSet.ofTable Unicode.digitRanges
      else if lower = 's' then CharSet.ofTable Unicode.spaceRanges
      else CharSet.ofTable Unicode.wordRanges
    else
      if lower = 'd' then CharSet.range 0x30 0x39
      else if lower = 's' then CharSet.normalize ⟨[(0x09, 0x0D), (0x20, 0x20)]⟩
      else CharSet.normalize ⟨[(0x30, 0x39), (0x41, 0x5A), (0x5F, 0x5F), (0x61, 0x7A)]⟩
  let negated := c.isUpper
  let s := if negated then (if f.unicode then s.complement else s.complementWithin 0xFF) else s
  if !f.unicode && !s.isAscii then .error .notText else .ok s

def splitProperty (text : List Char) : Option (List Char) × List Char × Bool :=
  let rec findNe : List Char → List Char → Option (List Char × List Char)
    | acc, '!' :: '=' :: rest => some (acc.reverse, rest)
    | acc, c :: rest => findNe (c :: acc) rest
    | _, [] => none
  match findNe [] text with
  | some (p, v) => (some p, v, true)
  | none =>
    match text.findIdx? fun c => c = ':' ∨ c = '=' with
    | some i => (some (text.take i), text.drop (i + 1), false)
    | none => (none, text, false)

def braced (x : Bool) (acc : List Char) (cs : List Char) : Option (List Char × List Char) :=
  match cs with
  | [] => none
  | c :: rest =>
    if c = '}' then some (acc.reverse, rest)
    else braced x (c :: acc) (skipSpace x rest)
termination_by cs.length
decreasing_by
  have := length_skipSpace x rest
  simp only [List.length_cons]; omega

def unicodeClass (f : Flags) (negated : Bool) (cs : List Char) : Except PatternError (CharSet × List Char) := do
  let cs := skipSpace f.verbose cs
  let (query, rest) ← match cs with
    | [] => .error .badEscape
    | '{' :: rest =>
      match braced f.verbose [] (skipSpace f.verbose rest) with
      | some (text, rest) => .ok (splitProperty text, rest)
      | none => .error .badEscape
    | '\\' :: _ => .error .badEscape
    | c :: rest => .ok (((none : Option (List Char)), [c], false), skipSpace f.verbose rest)
  if !f.unicode then .error .notText
  let (prop, value, ne) := query
  let found := match prop with
    | some p => Property.valued? (String.ofList p) (String.ofList value)
    | none => Property.named? (String.ofList value)
  match found with
  | none => .error .unknownProperty
  | some s =>
    let s ← f.foldNegate (negated != ne) s
    .ok (s, rest)

def isBoundaryNameChar (c : Char) : Bool := c.isAlpha || c = '-'

def boundaryName (x : Bool) (acc : List Char) (cs : List Char) : List Char × List Char :=
  match cs with
  | c :: rest => if isBoundaryNameChar c then boundaryName x (c :: acc) (skipSpace x rest) else (acc.reverse, c :: rest)
  | [] => (acc.reverse, [])
termination_by cs.length
decreasing_by
  have := length_skipSpace x rest
  simp only [List.length_cons]; omega

/-- The special word boundaries `\b{start}`, `\b{end}`, `\b{start-half}`, `\b{end-half}`; `cs`
starts at the brace. `none` when the brace opens a repetition instead. -/
def specialBoundary (f : Flags) (cs : List Char) : Except PatternError (Option (Look × List Char)) :=
  match cs with
  | '{' :: rest =>
    match skipSpace f.verbose rest with
    | [] => .error .badEscape
    | c :: body =>
      if !isBoundaryNameChar c then .ok none
      else
        match boundaryName f.verbose [] (c :: body) with
        | (name, '}' :: rest) =>
          let a := !f.unicode
          match String.ofList name with
          | "start" => .ok (some (.wordStart a, rest))
          | "end" => .ok (some (.wordEnd a, rest))
          | "start-half" => .ok (some (.wordStartHalf a, rest))
          | "end-half" => .ok (some (.wordEndHalf a, rest))
          | _ => .error .badEscape
        | _ => .error .badEscape
  | _ => .ok none

def escape (f : Flags) (cs : List Char) : Except PatternError (Escape × List Char) :=
  match cs with
  | [] => .error .badEscape
  | c :: rest =>
    if '0' ≤ c ∧ c ≤ '9' then .error .unsupported
    else if c = 'x' then do let (ch, braces, rest) ← hexEscape f.verbose 2 rest; .ok (.lit ch !braces, rest)
    else if c = 'u' then do let (ch, _, rest) ← hexEscape f.verbose 4 rest; .ok (.lit ch false, rest)
    else if c = 'U' then do let (ch, _, rest) ← hexEscape f.verbose 8 rest; .ok (.lit ch false, rest)
    else if c = 'p' ∨ c = 'P' then do let (s, rest) ← unicodeClass f (c = 'P') rest; .ok (.set s, rest)
    else if "dswDSW".toList.contains c then do let s ← shorthandClass f c; .ok (.set s, rest)
    else if isEscapable c then .ok (.lit c false, rest)
    else match c with
      | 'a' => .ok (.lit '\x07' false, rest)
      | 'f' => .ok (.lit '\x0C' false, rest)
      | 't' => .ok (.lit '\t' false, rest)
      | 'n' => .ok (.lit '\n' false, rest)
      | 'r' => .ok (.lit '\r' false, rest)
      | 'v' => .ok (.lit '\x0B' false, rest)
      | 'A' => .ok (.look .start, rest)
      | 'z' => .ok (.look .finish, rest)
      | 'b' => do
        match ← specialBoundary f rest with
        | some (l, rest) => .ok (.look l, rest)
        | none => .ok (.look (.boundary !f.unicode), rest)
      | 'B' => .ok (.look (.inside !f.unicode), rest)
      | '<' => .ok (.look (.wordStart !f.unicode), rest)
      | '>' => .ok (.look (.wordEnd !f.unicode), rest)
      | _ => .error .badEscape

end PropCalc.Pattern
