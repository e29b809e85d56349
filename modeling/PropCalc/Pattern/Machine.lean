import PropCalc.Pattern.Parse
import PropCalc.Pattern.Footprint

namespace PropCalc.Pattern

/-- An instruction; continuations are given by their index in the program. -/
inductive Inst where
  | chars (s : CharSet) (next : Nat)
  | look (l : Look) (next : Nat)
  | split (first second : Nat)
  | accept
deriving Inhabited

/-- A compiled expression: its instructions and the index where it starts. -/
structure Program where
  insts : Array Inst
  entry : Nat

namespace Program

def emit (i : Inst) (p : Array Inst) : Nat × Array Inst := (p.size, p.push i)

def choice (greedy : Bool) (body exit : Nat) : Inst :=
  if greedy then .split body exit else .split exit body

def copies (body : Nat → Array Inst → Nat × Array Inst) : Nat → Nat → Array Inst → Nat × Array Inst
  | 0, next, p => (next, p)
  | k + 1, next, p =>
    let (e, p) := copies body k next p
    body e p

def optionals (body : Nat → Array Inst → Nat × Array Inst) (greedy : Bool) :
    Nat → Nat → Array Inst → Nat × Array Inst
  | 0, next, p => (next, p)
  | k + 1, next, p =>
    let (inner, p) := optionals body greedy k next p
    let (e, p) := body inner p
    emit (choice greedy e next) p

def loop (body : Nat → Array Inst → Nat × Array Inst) (greedy empty : Bool) (k next : Nat)
    (p : Array Inst) : Nat × Array Inst :=
  let (u, p) := emit (.split next next) p
  let (e, p) := body u p
  let p := p.set! u (choice greedy e next)
  if k = 0 then
    if empty then emit (choice greedy e next) p else (u, p)
  else copies body (k - 1) e p

def compileLiteral : List Char → Nat → Array Inst → Nat × Array Inst
  | [], next, p => (next, p)
  | c :: cs, next, p =>
    let (e, p) := compileLiteral cs next p
    emit (.chars (CharSet.single c) e) p

mutual
def compile : Regex → Nat → Array Inst → Nat × Array Inst
  | .empty, next, p => (next, p)
  | .literal cs, next, p => compileLiteral cs next p
  | .chars s, next, p => emit (.chars s next) p
  | .look l, next, p => emit (.look l next) p
  | .group body, next, p => compile body next p
  | .concat parts, next, p => compileSeq parts next p
  | .alternation parts, next, p => compileAlts parts next p
  | .rep body lo hi greedy, next, p =>
    match hi with
    | some h =>
      let (opt, p) := optionals (compile body) greedy (h - lo) next p
      copies (compile body) lo opt p
    | none => loop (compile body) greedy (body.minLen = some 0) lo next p

def compileSeq : List Regex → Nat → Array Inst → Nat × Array Inst
  | [], next, p => (next, p)
  | r :: rs, next, p =>
    let (e, p) := compileSeq rs next p
    compile r e p

def compileAlts : List Regex → Nat → Array Inst → Nat × Array Inst
  | [], next, p => emit (.chars CharSet.none next) p
  | [r], next, p => compile r next p
  | r :: rs, next, p =>
    let (a, p) := compile r next p
    let (b, p) := compileAlts rs next p
    emit (.split a b) p
end

def ofRegex (r : Regex) : Program :=
  let (acceptAt, p) := emit .accept #[]
  let (entry, p) := compile r acceptAt p
  ⟨p, entry⟩

abbrev Thread := Nat × Nat

def follow (prog : Program) (before after : Option Char) (start : Nat) :
    Nat → Nat → Array Bool × List Thread → Array Bool × List Thread
  | 0, _, acc => acc
  | fuel + 1, pc, (seen, out) =>
    if seen[pc]?.getD true then (seen, out)
    else
      let seen := seen.set! pc true
      match prog.insts[pc]? with
      | some (.split a b) => follow prog before after start fuel b (follow prog before after start fuel a (seen, out))
      | some (.look l n) => if l.holds before after then follow prog before after start fuel n (seen, out) else (seen, out)
      | some (.chars _ _) | some .accept => (seen, (pc, start) :: out)
      | none => (seen, out)

/-- Advance the threads over the character `c` at position `pos`; `after` is the character
that follows it. Gives the threads for the next position and the match of the first
accepting thread, which cuts off the threads after it. -/
def advance (prog : Program) (c : Char) (after : Option Char) (pos : Nat) :
    List Thread → Array Bool × List Thread → Option (Nat × Nat) → (Array Bool × List Thread) × Option (Nat × Nat)
  | [], acc, found => (acc, found)
  | (pc, start) :: ts, acc, found =>
    match prog.insts[pc]? with
    | some .accept => (acc, some (start, pos))
    | some (.chars s n) =>
      if s.contains c then advance prog c after pos ts (follow prog (some c) after start (prog.insts.size + 1) n acc) found
      else advance prog c after pos ts acc found
    | _ => advance prog c after pos ts acc found

def run (prog : Program) (pos : Nat) (before : Option Char) (rest : List Char) (threads : List Thread)
    (seen : Array Bool) (found : Option (Nat × Nat)) : Option (Nat × Nat) :=
  let fresh := Array.replicate prog.insts.size false
  let (_, threads) :=
    if found.isNone then
      let (seen, added) := follow prog before rest.head? pos (prog.insts.size + 1) prog.entry (seen, [])
      (seen, threads ++ added.reverse)
    else (seen, threads)
  match rest with
  | [] =>
    match threads.find? fun t => match prog.insts[t.1]? with | some .accept => true | _ => false with
    | some (_, start) => some (start, pos)
    | none => found
  | c :: more =>
    let ((seen, next), found) := advance prog c more.head? pos threads (fresh, []) found
    if found.isSome && next.isEmpty then found
    else run prog (pos + 1) (some c) more next.reverse seen found

def find (prog : Program) (text : List Char) : Option (Nat × Nat) :=
  run prog 0 none text [] (Array.replicate prog.insts.size false) none

end Program

def Program.ofPattern (pattern : String) : Except PatternError Program := do
  let r ← Regex.parse pattern
  if !r.fits then .error .tooBig
  .ok (Program.ofRegex r)

end PropCalc.Pattern
