import PropCalc.Pattern.CharSet
import PropCalc.Unicode.Classes

namespace PropCalc.Pattern

/-- Zero-width assertions. The flag `ascii` selects ASCII word characters instead of Unicode ones. -/
inductive Look where
  | start
  | finish
  | lineStart (crlf : Bool)
  | lineEnd (crlf : Bool)
  | boundary (ascii : Bool)
  | inside (ascii : Bool)
  | wordStart (ascii : Bool)
  | wordEnd (ascii : Bool)
  | wordStartHalf (ascii : Bool)
  | wordEndHalf (ascii : Bool)
deriving DecidableEq, Inhabited

def isWordChar (ascii : Bool) (c : Char) : Bool :=
  if ascii then c.isAlphanum || c = '_' else Unicode.isWord c

namespace Look

def wordAt (ascii : Bool) : Option Char → Bool
  | some c => isWordChar ascii c
  | none => false

def holds : Look → Option Char → Option Char → Bool
  | start, before, _ => before.isNone
  | finish, _, after => after.isNone
  | lineStart false, before, _ => before.isNone || before = some '\n'
  | lineStart true, before, after =>
    before.isNone || before = some '\n' || (before = some '\r' && after != some '\n')
  | lineEnd false, _, after => after.isNone || after = some '\n'
  | lineEnd true, before, after =>
    after.isNone || after = some '\r' || (after = some '\n' && before != some '\r')
  | boundary a, before, after => wordAt a before != wordAt a after
  | inside a, before, after => wordAt a before == wordAt a after
  | wordStart a, before, after => !wordAt a before && wordAt a after
  | wordEnd a, before, after => wordAt a before && !wordAt a after
  | wordStartHalf a, before, _ => !wordAt a before
  | wordEndHalf a, _, after => !wordAt a after

end Look

/-- A regular expression. -/
inductive Regex where
  | empty
  | literal (cs : List Char)
  | chars (s : CharSet)
  | look (l : Look)
  | group (body : Regex)
  | concat (parts : List Regex)
  | alternation (parts : List Regex)
  | rep (body : Regex) (min : Nat) (max : Option Nat) (greedy : Bool)
deriving Inhabited

namespace Regex

mutual
def same : Regex → Regex → Bool
  | empty, empty => true
  | literal a, literal b => a == b
  | chars s, chars t => s = t
  | look l, look m => l = m
  | group a, group b => same a b
  | concat as, concat bs => sameAll as bs
  | alternation as, alternation bs => sameAll as bs
  | rep a i j g, rep b k l h => same a b && i == k && j == l && g == h
  | _, _ => false

def sameAll : List Regex → List Regex → Bool
  | [], [] => true
  | a :: as, b :: bs => same a b && sameAll as bs
  | _, _ => false
end

mutual
def nodes : Regex → Nat
  | group b => nodes b + 1
  | rep b _ _ _ => nodes b + 1
  | concat ps => nodesAll ps + 1
  | alternation ps => nodesAll ps + 1
  | _ => 1

def nodesAll : List Regex → Nat
  | [] => 0
  | r :: rs => nodes r + nodesAll rs
end

def utf8Length (x : Nat) : Nat :=
  if x < 0x80 then 1 else if x < 0x800 then 2 else if x < 0x10000 then 3 else 4

def literalLength (cs : List Char) : Nat := cs.foldl (fun n c => n + utf8Length c.toNat) 0

mutual
/-- The fewest bytes, in UTF-8, that a match reads; `none` when the expression holds an empty
class that it cannot avoid, including in any one part of an alternation. -/
def minLen : Regex → Option Nat
  | empty | look _ => some 0
  | literal cs => some (literalLength cs)
  | chars s => s.ranges.head?.map fun r => utf8Length r.1
  | group b => minLen b
  | concat ps => minLenSeq ps
  | alternation ps => minLenAlt ps
  | rep b k _ _ => (minLen b).map (· * k)

def minLenSeq : List Regex → Option Nat
  | [] => some 0
  | r :: rs =>
    match minLen r, minLenSeq rs with
    | some a, some b => some (a + b)
    | _, _ => none

def minLenAlt : List Regex → Option Nat
  | [] => none
  | [r] => minLen r
  | r :: rs =>
    match minLen r, minLenAlt rs with
    | some a, some b => some (Nat.min a b)
    | _, _ => none
end

mutual
def maxLen : Regex → Option Nat
  | empty | look _ => some 0
  | literal cs => some (literalLength cs)
  | chars s => s.ranges.getLast?.map fun r => utf8Length r.2
  | group b => maxLen b
  | concat ps => maxLenSeq ps
  | alternation ps => maxLenAlt ps
  | rep b _ hi _ => hi.bind fun m => (maxLen b).map (· * m)

def maxLenSeq : List Regex → Option Nat
  | [] => some 0
  | r :: rs =>
    match maxLen r, maxLenSeq rs with
    | some a, some b => some (a + b)
    | _, _ => none

def maxLenAlt : List Regex → Option Nat
  | [] => none
  | [r] => maxLen r
  | r :: rs =>
    match maxLen r, maxLenAlt rs with
    | some a, some b => some (Nat.max a b)
    | _, _ => none
end

mutual
def endsAtEnd : Regex → Bool
  | look .finish => true
  | group b => endsAtEnd b
  | rep b k _ _ => k > 0 && endsAtEnd b
  | concat ps => (endsAtEndSeq ps).1
  | alternation ps => endsAtEndAll ps
  | _ => false

/-- For parts one after the other: whether the end assertion is read last, and whether every
part only matches the empty string, so that the parts before them are read last too. -/
def endsAtEndSeq : List Regex → Bool × Bool
  | [] => (false, true)
  | r :: rs =>
    let (found, clear) := endsAtEndSeq rs
    if clear then (found || endsAtEnd r, maxLen r == some 0) else (found, false)

def endsAtEndAll : List Regex → Bool
  | [] => false
  | [r] => endsAtEnd r
  | r :: rs => endsAtEnd r && endsAtEndAll rs
end

mutual
def startsAtStart : Regex → Bool
  | look .start => true
  | group b => startsAtStart b
  | rep b k _ _ => k > 0 && startsAtStart b
  | concat ps => startsAtStartSeq ps
  | alternation ps => startsAtStartAll ps
  | _ => false

def startsAtStartSeq : List Regex → Bool
  | [] => false
  | r :: rs => startsAtStart r || (r.maxLen == some 0 && startsAtStartSeq rs)

def startsAtStartAll : List Regex → Bool
  | [] => false
  | [r] => startsAtStart r
  | r :: rs => startsAtStart r && startsAtStartAll rs
end

def surrogates : CharSet := CharSet.range 0xD800 0xDFFF

/-- The expression of a set: a set of one character is that character as a literal, and any
other set, the empty one included, is a class. Surrogates are dropped, as no character is one. -/
def ofSet (s : CharSet) : Regex :=
  let t := CharSet.diff s surrogates
  match t.ranges with
  | [(a, b)] => if a = b then literal [Char.ofNat a] else chars t
  | _ => chars t

def spliceConcat : List Regex → List Regex
  | [] => []
  | concat ps :: rest => ps ++ spliceConcat rest
  | empty :: rest => spliceConcat rest
  | r :: rest => r :: spliceConcat rest

def mergeLiterals : List Regex → List Regex
  | literal a :: literal b :: rest => mergeLiterals (literal (a ++ b) :: rest)
  | r :: rest => r :: mergeLiterals rest
  | [] => []
termination_by rs => rs.length

def concatOf (parts : List Regex) : Regex :=
  match mergeLiterals (spliceConcat parts) with
  | [] => empty
  | [r] => r
  | ps => concat ps

def spliceAlternation : List Regex → List Regex
  | [] => []
  | alternation ps :: rest => ps ++ spliceAlternation rest
  | r :: rest => r :: spliceAlternation rest

def singleChars : List Regex → Option (List Char)
  | [] => some []
  | literal [c] :: rest => (singleChars rest).map (c :: ·)
  | _ => none

def classUnion : List Regex → Option CharSet
  | [] => some CharSet.none
  | chars s :: rest => (classUnion rest).map (CharSet.union s)
  | _ => none

def concatParts : List Regex → Option (List (List Regex))
  | [] => some []
  | concat ps :: rest => (concatParts rest).map (ps :: ·)
  | _ => none

def commonPrefix : List Regex → List Regex → List Regex
  | a :: as, b :: bs => if same a b then a :: commonPrefix as bs else []
  | _, _ => []

/-- The alternation of a list of expressions, simplified; `fuel` bounds the simplification of
the alternations left after taking out common prefixes, each of which is smaller. -/
def alternationWith : Nat → List Regex → Regex
  | fuel, parts =>
    let ps := spliceAlternation parts
    match ps with
    | [] => chars CharSet.none
    | [r] => r
    | _ =>
      match singleChars ps with
      | some cs => ofSet (CharSet.normalize (CharSet.ofChars cs))
      | none =>
        match classUnion ps with
        | some s => ofSet s
        | none =>
          match fuel, concatParts ps with
          | fuel + 1, some (first :: rest) =>
            let pre := rest.foldl commonPrefix first
            if pre.isEmpty then alternation ps
            else
              let suffixes := (first :: rest).map fun q => concatOf (q.drop pre.length)
              concatOf (pre ++ [alternationWith fuel suffixes])
          | _, _ => alternation ps

def alternationOf (parts : List Regex) : Regex := alternationWith (nodesAll parts + 1) parts

/-- A repetition of a body between `min` and `max` rounds, simplified: a body that only
matches the empty string repeats at most once, no rounds is the empty string and exactly one
round is the body. -/
def repOf (body : Regex) (min : Nat) (max : Option Nat) (greedy : Bool) : Regex :=
  let emptyOnly := body.maxLen == some 0
  let min := if emptyOnly then Nat.min min 1 else min
  let max := if emptyOnly then some (Nat.min (max.getD 1) 1) else max
  if min = 0 ∧ max = some 0 then empty
  else if min = 1 ∧ max = some 1 then body
  else rep body min max greedy

end Regex

end PropCalc.Pattern
