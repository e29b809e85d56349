import PropCalc.Pattern.Bracket
import PropCalc.Unicode.Letter

namespace PropCalc.Pattern

/-- An item of a branch: an expression with the depth to which it nests, or a flag setting,
which matches nothing. -/
inductive Item where
  | node (r : Regex) (depth : Nat)
  | flags

def nestOf (depths : List Nat) : Nat :=
  let deepest := depths.foldl Nat.max 0
  if depths.length ≥ 2 then deepest + 1 else deepest

def branchOf (items : List Item) : Regex × Nat :=
  let items := items.reverse
  (Regex.concatOf (items.filterMap fun i => match i with
      | .node r _ => some r
      | .flags => none),
    nestOf (items.map fun i => match i with
      | .node _ d => d
      | .flags => 0))

/-- A group being read: the items of its current branch (reversed), its finished branches
(reversed) with their depths, the flags in force, and whether the group captures. -/
structure Level where
  items : List Item := []
  branches : List (Regex × Nat) := []
  flags : Flags
  capturing : Bool := false

namespace Level

def close (l : Level) : Regex × Nat :=
  match (branchOf l.items :: l.branches).reverse with
  | [b] => b
  | bs => (Regex.alternationOf (bs.map Prod.fst), nestOf (bs.map Prod.snd))

def pushNested (l : Level) (r : Regex) (depth : Nat) : Level := { l with items := .node r depth :: l.items }

def push (l : Level) (r : Regex) : Level := l.pushNested r 0

end Level

/-- What follows `(`: a flag setting, or a group with its flags, its name if it has one, and
whether it captures. -/
inductive Opening where
  | setFlags (f : Flags)
  | group (f : Flags) (name : Option String) (capturing : Bool)

def flagItems (items : List (Bool × Char)) (negating lastNegation : Bool) :
    List Char → Except PatternError (List (Bool × Char) × Char × List Char)
  | [] => .error .badFlags
  | c :: rest =>
    if c = ':' ∨ c = ')' then
      if lastNegation then .error .badFlags else .ok (items.reverse, c, rest)
    else if c = '-' then
      if negating then .error .badFlags else flagItems items true true rest
    else if "imsUuRx".toList.contains c then
      if items.any (·.2 = c) then .error .badFlags
      else flagItems ((!negating, c) :: items) negating false rest
    else .error .badFlags

/-- Whether a character may appear in a group name, first or later: a name starts with `_` or
an alphabetic character and goes on with those, numeric characters, `.`, `[` and `]`. -/
def isNameChar (first : Bool) (c : Char) : Bool :=
  if first then c = '_' || Unicode.isAlphabetic c
  else c = '_' || c = '.' || c = '[' || c = ']' || Unicode.isAlphanumeric c

def groupName (names : List String) (cs : List Char) : Except PatternError (String × List Char) :=
  let name := cs.takeWhile (· ≠ '>')
  let valid := (name.zipIdx.all fun p => isNameChar (p.2 = 0) p.1)
  match cs.dropWhile (· ≠ '>') with
  | '>' :: rest =>
    if !valid ∨ name.isEmpty ∨ names.contains (String.ofList name) then .error .badGroupName
    else .ok (String.ofList name, rest)
  | _ => .error .badGroupName

def opening (f : Flags) (names : List String) (cs : List Char) : Except PatternError (Opening × List Char) :=
  match skipSpace f.verbose cs with
  | '?' :: '=' :: _ | '?' :: '!' :: _ | '?' :: '<' :: '=' :: _ | '?' :: '<' :: '!' :: _ => .error .unsupported
  | '?' :: 'P' :: '<' :: rest | '?' :: '<' :: rest => do
    let (name, rest) ← groupName names rest
    .ok (.group f (some name) true, rest)
  | '?' :: rest => do
    if rest.isEmpty then .error .unclosedGroup
    let (items, close, rest) ← flagItems [] false false rest
    if close = ')' then
      if items.isEmpty then .error .missingRepetition else .ok (.setFlags (f.applyAll items), rest)
    else .ok (.group (f.applyAll items) none false, rest)
  | rest => .ok (.group f none true, rest)

def decimal (x : Bool) (cs : List Char) : Except PatternError (Nat × List Char) :=
  let cs := cs.dropWhile Unicode.isSpace
  let rec digits (acc : List Nat) (cs : List Char) : List Nat × List Char :=
    match cs with
    | c :: rest => if c.isDigit then digits (acc ++ [c.toNat - '0'.toNat]) (skipSpace x rest) else (acc, c :: rest)
    | [] => (acc, [])
  termination_by cs.length
  decreasing_by
    have := length_skipSpace x rest
    simp only [List.length_cons]; omega
  let (ds, rest) := digits [] cs
  let rest := skipBlanksAround rest
  if ds.isEmpty then .error .badRepetition
  else
    let n := ds.foldl (fun acc d => acc * 10 + d) 0
    if n ≥ 4294967296 then .error .badRepetition else .ok (n, rest)
where
  skipBlanksAround (cs : List Char) : List Char := skipSpace x (cs.dropWhile Unicode.isSpace)

def counted (x : Bool) (cs : List Char) : Except PatternError ((Nat × Option Nat) × Bool × List Char) := do
  let cs := skipSpace x cs
  if cs.isEmpty then .error .badRepetition
  let (lo, rest) ← decimal x cs
  let (hi, rest) ← match rest with
    | ',' :: more =>
      let more := skipSpace x more
      match more with
      | [] => .error .badRepetition
      | '}' :: _ => .ok (none, more)
      | _ => do let (hi, more) ← decimal x more; .ok (some hi, more)
    | _ => .ok (some lo, rest)
  match rest with
  | '}' :: more =>
    let (greedy, more) := match skipSpace x more with
      | '?' :: after => (false, after)
      | _ => (true, more)
    match hi with
    | some h => if lo ≤ h then .ok ((lo, hi), greedy, more) else .error .badRepetition
    | none => .ok ((lo, hi), greedy, more)
  | _ => .error .badRepetition

def repeatLast (l : Level) (lo : Nat) (hi : Option Nat) (greedy : Bool) : Except PatternError Level :=
  match l.items with
  | .node r d :: rest =>
    let greedy := if l.flags.swapGreed then !greedy else greedy
    .ok { l with items := .node (Regex.repOf r lo hi greedy) (d + 1) :: rest }
  | _ => .error .missingRepetition

def literal (f : Flags) (c : Char) : Regex := Regex.ofSet (f.fold (CharSet.single c))

def dot (f : Flags) : Except PatternError Regex :=
  if !f.unicode then .error .notText
  else if f.dotAll then .ok (Regex.ofSet (CharSet.range 0 maxCode))
  else if f.crlf then .ok (Regex.ofSet (CharSet.complement (CharSet.ofChars ['\n', '\r'])))
  else .ok (Regex.ofSet (CharSet.complement (CharSet.single '\n')))

def readPattern : Nat → Level → List Level → List String → List Char → Except PatternError (Regex × Nat)
  | 0, _, _, _, _ => .error .unclosedGroup
  | fuel + 1, cur, outer, names, cs =>
    let f := cur.flags
    match skipSpace f.verbose cs with
    | [] => if outer.isEmpty then .ok cur.close else .error .unclosedGroup
    | '(' :: rest => do
      let (o, rest) ← opening f names rest
      match o with
      | .setFlags g => readPattern fuel { cur with items := .flags :: cur.items, flags := g } outer names rest
      | .group g name capturing =>
        readPattern fuel { flags := g, capturing := capturing } (cur :: outer) (names ++ name.toList) rest
    | ')' :: rest =>
      match outer with
      | [] => .error .unopenedGroup
      | p :: ps =>
        let (body, depth) := cur.close
        readPattern fuel (p.pushNested (if cur.capturing then .group body else body) (depth + 1)) ps names rest
    | '|' :: rest =>
      readPattern fuel { cur with items := [], branches := branchOf cur.items :: cur.branches } outer names rest
    | '[' :: rest => do
      let (s, depth, rest) ← bracket f rest
      readPattern fuel (cur.pushNested (Regex.ofSet s) depth) outer names rest
    | '?' :: rest => do
      let (greedy, rest) := match rest with | '?' :: r => (false, r) | r => (true, r)
      readPattern fuel (← repeatLast cur 0 (some 1) greedy) outer names rest
    | '*' :: rest => do
      let (greedy, rest) := match rest with | '?' :: r => (false, r) | r => (true, r)
      readPattern fuel (← repeatLast cur 0 none greedy) outer names rest
    | '+' :: rest => do
      let (greedy, rest) := match rest with | '?' :: r => (false, r) | r => (true, r)
      readPattern fuel (← repeatLast cur 1 none greedy) outer names rest
    | '{' :: rest => do
      match cur.items with
      | .node _ _ :: _ =>
        let ((lo, hi), greedy, rest) ← counted f.verbose rest
        readPattern fuel (← repeatLast cur lo hi greedy) outer names rest
      | _ => .error .missingRepetition
    | '.' :: rest => do readPattern fuel (cur.push (← dot f)) outer names rest
    | '^' :: rest =>
      readPattern fuel (cur.push (.look (if f.multiLine then .lineStart f.crlf else .start))) outer names rest
    | '$' :: rest =>
      readPattern fuel (cur.push (.look (if f.multiLine then .lineEnd f.crlf else .finish))) outer names rest
    | '\\' :: rest => do
      let (e, rest) ← escape f rest
      let r ← match e with
        | .lit c byte => if !f.unicode && byte && c.toNat > 0x7F then .error .notText else .ok (literal f c)
        | .set s => .ok (Regex.ofSet s)
        | .look l => .ok (.look l)
      readPattern fuel (cur.push r) outer names rest
    | c :: rest => readPattern fuel (cur.push (literal f c)) outer names rest

def nestLimit : Nat := 250

def Regex.parse (pattern : String) : Except PatternError Regex := do
  let cs := pattern.toList
  let (r, depth) ← readPattern (cs.length + 1) { flags := {} } [] [] cs
  if depth > nestLimit then .error .tooDeep
  .ok r

end PropCalc.Pattern
