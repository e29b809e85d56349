import PropCalc.Pattern.Regex
import PropCalc.Pattern.Utf8

namespace PropCalc.Pattern

namespace Footprint

def sizeLimit : Nat := 10485760

def stateBytes : Nat := 32

abbrev Trans := Nat × Nat × Nat

/-- An entry of a cache: the version of the cache it was set in, its key, and the state it
stands for. -/
structure Entry (κ : Type) where
  version : Nat
  key : κ
  state : Nat

/-- The count of an automaton being built, and the caches of its classes. -/
structure Builder where
  backward : Bool
  states : Nat := 0
  extra : Nat := 0
  nodes : Array (Option (Entry (Array Trans))) := Array.replicate 10000 none
  nodesVersion : Nat := 0
  chains : Array (Option (Entry Trans)) := Array.replicate 1000 none
  chainsVersion : Nat := 0

def Builder.bytes (b : Builder) : Nat := b.states * stateBytes + b.extra

abbrev Build := StateT Builder (Except Unit)

def addState (extra : Nat) : Build Nat := do
  let b ← get
  let b := { b with states := b.states + 1, extra := b.extra + extra }
  if b.bytes > sizeLimit then throw ()
  set b
  pure (b.states - 1)

def addAlternatives (n : Nat) : Build Unit := do
  let b ← get
  let b := { b with extra := b.extra + 4 * n }
  if b.bytes > sizeLimit then throw ()
  set b

/-- A piece of automaton: its entry state, its exit state, and whether the exit branches, in
which case leading it on adds an alternative. -/
structure Piece where
  entry : Nat
  exit : Nat
  branches : Bool := false

def link (p : Piece) : Build Unit := if p.branches then addAlternatives 1 else pure ()

def single : Build Piece := do
  let s ← addState 0
  pure { entry := s, exit := s }

def chain (n : Nat) : Build Piece := do
  let first ← addState 0
  let rec more : Nat → Build Unit
    | 0 => pure ()
    | k + 1 => do
      let _ ← addState 0
      more k
  more (n - 1)
  pure { entry := first, exit := first + (n - 1) }

/-! ### Hashing -/

def fnvBasis : UInt64 := 14695981039346656037

def fnvPrime : UInt64 := 1099511628211

def mix (h : UInt64) (x : Nat) : UInt64 := (h ^^^ x.toUInt64) * fnvPrime

def nodeSlot (key : Array Trans) : Nat :=
  (key.foldl (fun h t => mix (mix (mix h t.1) t.2.1) t.2.2) fnvBasis).toNat % 10000

def chainSlot (key : Trans) : Nat :=
  (mix (mix (mix fnvBasis key.1) key.2.1) key.2.2).toNat % 1000

/-! ### Classes read forward -/

/-- A state of the forward automaton of a class that is not finished: its transitions, and the
byte range of its last transition, whose target is not known yet. -/
structure Node where
  trans : Array Trans := #[]
  last : Option (Nat × Nat) := none

def Node.close (n : Node) (next : Nat) : Array Trans :=
  match n.last with
  | some (lo, hi) => n.trans.push (lo, hi, next)
  | none => n.trans

def finishNode (trans : Array Trans) : Build Nat := do
  let b ← get
  let slot := nodeSlot trans
  let cached := match b.nodes[slot]? with
    | some (some e) => if e.version = b.nodesVersion ∧ e.key == trans then some e.state else none
    | _ => none
  match cached with
  | some id => pure id
  | none =>
    let id ← addState (8 * trans.size)
    modify fun b => { b with nodes := b.nodes.set! slot (some ⟨b.nodesVersion, trans, id⟩) }
    pure id

def closeTop (stack : Array Node) (next : Nat) : Array Node :=
  stack.modify (stack.size - 1) fun n => { trans := n.close next }

/-- Finish the nodes of a stack above its first `keep + 1`, the top first, each leading on to
the state of the one finished before it, the first to `next`; then close the last transition
of the node left on top. `fuel` bounds the number of nodes finished. -/
def finishAbove (keep : Nat) : Nat → Array Node → Nat → Build (Array Node)
  | 0, stack, next => pure (closeTop stack next)
  | fuel + 1, stack, next =>
    if keep + 1 < stack.size then do
      let id ← finishNode ((stack.back?.getD {}).close next)
      finishAbove keep fuel stack.pop id
    else pure (closeTop stack next)

def sharedPrefix : List (Nat × Nat) → List Node → Nat
  | r :: rs, n :: ns => if n.last = some r then sharedPrefix rs ns + 1 else 0
  | _, _ => 0

def addSequence (target : Nat) (stack : Array Node) (seq : List (Nat × Nat)) :
    Build (Array Node) := do
  let k := sharedPrefix seq stack.toList
  let stack ← finishAbove k stack.size stack target
  match seq.drop k with
  | [] => pure stack
  | r :: rs =>
    let stack := stack.modify (stack.size - 1) fun n => { n with last := some r }
    pure (rs.foldl (fun st r => st.push { last := some r }) stack)

def forwardClass (ranges : List (Nat × Nat)) : Build Piece := do
  let target ← addState 0
  modify fun b => { b with nodesVersion := b.nodesVersion + 1 }
  let stack ← ranges.foldlM (fun st r => (Utf8.sequences r.1 r.2).foldlM (addSequence target) st)
    #[({} : Node)]
  let stack ← finishAbove 0 stack.size stack target
  let entry ← finishNode ((stack[0]?.map Node.trans).getD #[])
  pure { entry := entry, exit := target }

/-! ### Classes read backward -/

def chainState (next lo hi : Nat) : Build Nat := do
  let b ← get
  let key : Trans := (next, lo, hi)
  let slot := chainSlot key
  let cached := match b.chains[slot]? with
    | some (some e) => if e.version = b.chainsVersion ∧ e.key = key then some e.state else none
    | _ => none
  match cached with
  | some id => pure id
  | none =>
    let id ← addState 0
    modify fun b => { b with chains := b.chains.set! slot (some ⟨b.chainsVersion, key, id⟩) }
    pure id

def backwardClass (ranges : List (Nat × Nat)) : Build Piece := do
  modify fun b => { b with chainsVersion := b.chainsVersion + 1 }
  let branch ← addState 0
  let exit ← addState 0
  ranges.forM fun r => (Utf8.sequences r.1 r.2).forM fun seq => do
    let _ ← seq.foldlM (fun next br => chainState next br.1 br.2) exit
    addAlternatives 1
  pure { entry := branch, exit := exit }

def classPiece (s : CharSet) : Build Piece := do
  let rs := s.ranges
  if rs.all (·.2 ≤ 0x7F) then
    let exit ← addState 0
    let entry ← addState (8 * rs.length)
    pure { entry := entry, exit := exit }
  else if (← get).backward then backwardClass rs
  else forwardClass rs

/-! ### Alternations of literals -/

/-- A state of a trie of literals: its transitions by byte, and its chunks. A literal that ends
at the state closes a chunk of the transitions added so far; later ones go to a new chunk, kept
in increasing byte order. -/
structure TrieState where
  trans : Array (Nat × Nat) := #[]
  chunks : Array (Nat × Nat) := #[]

namespace TrieState

def openStart (s : TrieState) : Nat := (s.chunks.back?.map Prod.snd).getD 0

def chunkList (s : TrieState) : List (Array (Nat × Nat)) :=
  s.chunks.toList.map (fun c => s.trans.extract c.1 c.2) ++ [s.trans.extract s.openStart s.trans.size]

end TrieState

def trieStep (states : Array TrieState) (cur byte : Nat) : Array TrieState × Nat :=
  let st := states[cur]?.getD {}
  let start := st.openStart
  let chunk := st.trans.extract start st.trans.size
  match chunk.find? (·.1 = byte) with
  | some (_, next) => (states, next)
  | none =>
    let next := states.size
    let pos := start + (chunk.findIdx? (·.1 > byte)).getD chunk.size
    ((states.set! cur { st with trans := st.trans.insertIdx! pos (byte, next) }).push {}, next)

def trieEnd (states : Array TrieState) (i : Nat) : Array TrieState :=
  let st := states[i]?.getD {}
  if st.trans.isEmpty ∧ !st.chunks.isEmpty then states
  else states.set! i { st with chunks := st.chunks.push (st.openStart, st.trans.size) }

def trieOf (literals : List (List Nat)) : Array TrieState :=
  literals.foldl (fun states bytes =>
    let (states, last) := bytes.foldl (fun acc b => trieStep acc.1 acc.2 b) (states, 0)
    trieEnd states last) #[{}]

/-- Add the automaton states of a state of the trie and the states below it: for each chunk, the
states below it and then one state with its transitions, and last a state branching to the
chunks in order and, between them, to the exit. Gives the branching state. `fuel` bounds the
depth. -/
def trieStates (states : Array TrieState) : Nat → Nat → Build Nat
  | 0, _ => addState 0
  | fuel + 1, i => do
    let chunks := (states[i]?.getD {}).chunkList
    let alternates ← chunks.zipIdx.foldlM (fun count (chunk, k) => do
      chunk.forM fun t => do
        if !(states[t.2]?.getD {}).trans.isEmpty then
          let _ ← trieStates states fuel t.2
      let count := if k > 0 then count + 1 else count
      if chunk.size = 0 then pure count
      else
        let _ ← addState (if chunk.size = 1 then 0 else 8 * chunk.size)
        pure (count + 1)) 0
    addState (4 * alternates)

def triePiece (literals : List (List Nat)) : Build Piece := do
  let exit ← addState 0
  let entry ← trieStates (trieOf literals) (literals.foldl (fun n l => n + l.length) 1) 0
  pure { entry := entry, exit := exit }

/-! ### Repetitions -/

def copiesAfter (step : Build Piece) (acc : Piece) : Nat → Build Piece
  | 0 => pure acc
  | k + 1 => do
    let next ← step
    link acc
    copiesAfter step { entry := acc.entry, exit := next.exit, branches := next.branches } k

def exactly (step : Build Piece) : Nat → Build Piece
  | 0 => single
  | k + 1 => do
    let first ← step
    copiesAfter step first k

def optionalCopies (step : Build Piece) (exit : Nat) (prev : Piece) : Nat → Build Piece
  | 0 => do
    link prev
    pure { entry := prev.entry, exit := exit }
  | k + 1 => do
    let _ ← addState 0
    let body ← step
    link prev
    addAlternatives 2
    optionalCopies step exit { entry := prev.entry, exit := body.exit, branches := body.branches } k

/-- A repetition of a body; `plainLoop` says whether a loop with no copies before it may branch
straight into the body, which it may when every match of the body reads a byte. -/
def repetition (step : Build Piece) (plainLoop : Bool) : Nat → Option Nat → Build Piece
  | 0, some 1 => do
    let branch ← addState 0
    let body ← step
    let exit ← addState 0
    addAlternatives 2
    link body
    pure { entry := branch, exit := exit }
  | 0, none =>
    if plainLoop then do
      let branch ← addState 0
      let body ← step
      addAlternatives 1
      link body
      pure { entry := branch, exit := branch, branches := true }
    else do
      let _ ← step
      let _ ← addState 0
      addAlternatives 1
      let branch ← addState 0
      let exit ← addState 0
      addAlternatives 3
      pure { entry := branch, exit := exit }
  | 1, none => do
    let body ← step
    let again ← addState 0
    link body
    addAlternatives 1
    pure { entry := body.entry, exit := again, branches := true }
  | k + 2, none => do
    let pre ← exactly step (k + 1)
    let last ← step
    let again ← addState 0
    link pre
    link last
    addAlternatives 1
    pure { entry := pre.entry, exit := again, branches := true }
  | k, some h =>
    if k = h then exactly step k
    else do
      let pre ← exactly step k
      let exit ← addState 0
      optionalCopies step exit pre (h - k)

/-! ### Expressions -/

def literalBytes : List Regex → Option (List (List Nat))
  | [] => some []
  | .literal cs :: rest => (literalBytes rest).map ((cs.flatMap fun c => Utf8.encode c.toNat) :: ·)
  | _ => none

mutual
def piece : Regex → Build Piece
  | .empty => single
  | .literal cs => chain (Regex.literalLength cs)
  | .chars s => classPiece s
  | .look _ => single
  | .group body => do
    if (← get).backward then piece body
    else
      let start ← addState 0
      let inner ← piece body
      let stop ← addState 0
      link inner
      pure { entry := start, exit := stop }
  | .concat parts => do
    if (← get).backward then sequenceBack parts else sequence parts
  | .alternation parts => do
    match literalBytes parts with
    | some lits =>
      if lits.length ≥ 2 then
        triePiece (if (← get).backward then lits.map List.reverse else lits)
      else alternatives parts
    | none => alternatives parts
  | .rep body lo hi _ =>
    repetition (piece body) (match body.minLen with | some (_ + 1) => true | _ => false) lo hi

def sequence : List Regex → Build Piece
  | [] => single
  | [r] => piece r
  | r :: rs => do
    let a ← piece r
    let b ← sequence rs
    link a
    pure { entry := a.entry, exit := b.exit, branches := b.branches }

def sequenceBack : List Regex → Build Piece
  | [] => single
  | [r] => piece r
  | r :: rs => do
    let b ← sequenceBack rs
    let a ← piece r
    link b
    pure { entry := b.entry, exit := a.exit, branches := a.branches }

def alternatives : List Regex → Build Piece
  | [] => single
  | [r] => piece r
  | r1 :: r2 :: rest => do
    let a ← piece r1
    let b ← piece r2
    let branch ← addState 0
    let exit ← addState 0
    addAlternatives 2
    link a
    link b
    moreAlternatives branch exit rest

def moreAlternatives (branch exit : Nat) : List Regex → Build Piece
  | [] => pure { entry := branch, exit := exit }
  | r :: rs => do
    let x ← piece r
    addAlternatives 1
    link x
    moreAlternatives branch exit rs
end

def anyBytePrefix : Build Piece := do
  let branch ← addState 0
  let _ ← addState 0
  let _ ← addState 8
  addAlternatives 1
  pure { entry := branch, exit := branch, branches := true }

/-- Build the whole automaton of an expression: the prefix, the expression (within the group
of the whole match, forward), and the state that reports a match. -/
def automaton (r : Regex) : Build Unit := do
  if (← get).backward then
    let pre ← if r.endsAtEnd then single else anyBytePrefix
    let body ← piece r
    let _ ← addState 0
    link body
    link pre
  else
    let pre ← if r.startsAtStart then single else anyBytePrefix
    let start ← addState 0
    let body ← piece r
    let _ ← addState 0
    link body
    let _ ← addState 0
    let _ := start
    link pre

def bytes (r : Regex) (backward : Bool) : Option Nat :=
  match (automaton r).run { backward := backward } with
  | .ok (_, b) => some b.bytes
  | .error _ => none

end Footprint

def Regex.fits (r : Regex) : Bool :=
  (Footprint.bytes r false).isSome && (Footprint.bytes r true).isSome

end PropCalc.Pattern
