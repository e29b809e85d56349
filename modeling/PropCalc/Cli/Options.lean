import PropCalc.Cli.Similarity

namespace PropCalc.Cli

/-- How much of the log is printed. -/
inductive LogLevel where
  | off
  | error
  | warn
  | info
  | debug
  | trace
deriving DecidableEq, Inhabited, Repr

namespace LogLevel

def rank : LogLevel → Nat
  | off => 0
  | error => 1
  | warn => 2
  | info => 3
  | debug => 4
  | trace => 5

def ofString? (s : String) : Option LogLevel :=
  match s.toLower with
  | "off" => some off
  | "error" => some error
  | "warn" => some warn
  | "info" => some info
  | "debug" => some debug
  | "trace" => some trace
  | _ => none

end LogLevel

/-- What to analyze and how. -/
structure Options where
  formula : String
  dot : Option String := none
  memoize : Bool := true
  log : LogLevel := .info
deriving DecidableEq, Inhabited, Repr

/-- What a command line asks for. -/
inductive Invocation where
  | run (o : Options)
  | help
  | version
  | refuse (message : String)
deriving DecidableEq, Inhabited, Repr

/-- The arguments the command line knows. -/
inductive Key where
  | formula
  | dot
  | noMemoize
  | log
  | help
  | version
deriving DecidableEq, Inhabited, Repr

namespace Key

def display : Key → String
  | formula => "<FORMULA>"
  | dot => "--dot <FILE>"
  | noMemoize => "--no-memoize"
  | log => "--log <LEVEL>"
  | help => "--help"
  | version => "--version"

def longs : List (String × Key) :=
  [("dot", dot), ("no-memoize", noMemoize), ("log", log), ("help", help), ("version", version)]

def takesValue : Key → Bool
  | dot | log => true
  | _ => false

end Key

def programName : String := "analyze"

def versionText : String := "boolcalc-rs 0.1.0\n"

def helpText : String :=
  "Usage: analyze [OPTIONS] <FORMULA>\n\nArguments:\n  <FORMULA>  Formula to analyze\n\n" ++
  "Options:\n      --dot <FILE>   Write the expression tree in DOT format to this file\n" ++
  "      --no-memoize   Recompute the truth table for every query\n" ++
  "      --log <LEVEL>  Log level [default: info]\n" ++
  "  -h, --help         Print help\n" ++
  "  -V, --version      Print version\n"

def fullUsage : String := programName ++ " [OPTIONS] <FORMULA>"

def usageOf (used : List Key) : String :=
  let opts := (used.filter (· ≠ .formula)).eraseDups
  programName ++ String.join (opts.map fun k => " " ++ k.display) ++ " <FORMULA>"

def groupDisplay : String := "<FORMULA|--dot <FILE>|--no-memoize|--log <LEVEL>>"

def attachedUsage (used : List Key) (k : Key) : String :=
  if used.isEmpty then usageOf [k]
  else programName ++ (if k = .help ∨ k = .version then " " ++ k.display else "") ++ " " ++ groupDisplay

def usageMessage (text : String) (usage : Option String) : String :=
  "error: " ++ text ++ (usage.map fun u => "\n\nUsage: " ++ u).getD "" ++
    "\n\nFor more information, try '--help'.\n"

def unknownArgument (arg : String) (similar : Option String) (hint : Bool) (usage : String) : String :=
  let tips :=
    (similar.map fun s => "\n\n  tip: a similar argument exists: '" ++ s ++ "'").getD "" ++
    (if hint then (if similar.isSome then "" else "\n") ++ "\n  tip: to pass '" ++ arg ++ "' as a value, use '-- " ++ arg ++ "'" else "")
  usageMessage ("unexpected argument '" ++ arg ++ "' found" ++ tips) (some usage)

def similarLong (name : String) : Option Key :=
  let scored := Key.longs.filterMap fun p =>
    let s := jaro name p.1
    if s > 0.7 then some (s, p.2) else none
  scored.foldl (fun best p => match best with
    | none => some p
    | some b => if p.1 < b.1 then some b else some p) none |>.map Prod.snd

def valueRequired (k : Key) : String :=
  usageMessage ("a value is required for '" ++ k.display ++ "' but none was supplied") none

/-- The arguments read so far. -/
structure Matched where
  formula : Option String := none
  dot : Option String := none
  noMemoize : Bool := false
  log : Option LogLevel := none
  used : List Key := []
deriving Inhabited

namespace Matched

def has (m : Matched) : Key → Bool
  | .formula => m.formula.isSome
  | .dot => m.dot.isSome
  | .noMemoize => m.noMemoize
  | .log => m.log.isSome
  | _ => false

def accept (m : Matched) (k : Key) (values : List String) : Except String Matched :=
  if k.takesValue && values.isEmpty then
    .error (valueRequired k)
  else if k ≠ .formula && m.has k then
    .error (usageMessage ("the argument '" ++ k.display ++ "' cannot be used multiple times") (some fullUsage))
  else
    let m := { m with used := m.used ++ [k] }
    match k, values with
    | .formula, v :: _ => .ok { m with formula := some v }
    | .dot, v :: _ => if v.isEmpty then .error (valueRequired k) else .ok { m with dot := some v }
    | .noMemoize, _ => .ok { m with noMemoize := true }
    | .log, v :: _ =>
      match LogLevel.ofString? v with
      | some l => .ok { m with log := some l }
      | none => .error (usageMessage ("invalid value '" ++ v ++ "' for '" ++ k.display ++
          "': attempted to convert a string that doesn't match an existing log level") none)
    | _, _ => .ok m

end Matched

/-- The state of reading: the arguments read, the argument whose values are still open, whether
`--` was seen, whether the formula was given, and whether an option waits for its value. -/
structure Reading where
  matched : Matched := {}
  pending : Option (Key × List String) := none
  trailing : Bool := false
  positional : Bool := false
  awaiting : Bool := false

namespace Reading

def resolve (r : Reading) : Except String Reading :=
  match r.pending with
  | none => .ok r
  | some (k, vs) => do
    let m ← r.matched.accept k vs
    .ok { r with matched := m, pending := none, awaiting := false }

def settle (r : Reading) : Reading :=
  match r.resolve with
  | .ok r => r
  | .error _ => { r with pending := none, awaiting := false }

end Reading

def readLong (r : Reading) (body : String) : Except String (Sum Invocation Reading) :=
  let (name, attached) := match body.splitOn "=" with
    | n :: v :: rest => (n, some (String.intercalate "=" (v :: rest)))
    | _ => (body, none)
  match Key.longs.lookup name with
  | none =>
    let r := r.settle
    let similar := similarLong name
    let used := r.matched.used ++ similar.toList
    let hint := similar.isNone && !r.trailing
    .error (unknownArgument ("--" ++ name) (similar.map fun k => "--" ++ (Key.longs.find? (·.2 = k)).elim "" Prod.fst)
      hint (if used.isEmpty then fullUsage else usageOf used))
  | some k =>
    if k.takesValue then
      match attached with
      | some v => do
        let r ← r.resolve
        let m ← r.matched.accept k [v]
        .ok (.inr { r with matched := m })
      | none => do
        let r ← r.resolve
        .ok (.inr { r with pending := some (k, []), awaiting := true })
    else
      match attached with
      | some v =>
        .error (usageMessage ("unexpected value '" ++ v ++ "' for '" ++ k.display ++
          "' found; no more were expected") (some (attachedUsage r.matched.used k)))
      | none => do
        let r ← r.resolve
        match k with
        | .help => .ok (.inl .help)
        | .version => .ok (.inl .version)
        | _ =>
          let m ← r.matched.accept k []
          .ok (.inr { r with matched := m })

def readShort (r : Reading) (flags : List Char) : Except String (Sum Invocation Reading) :=
  match flags with
  | 'h' :: _ => do let _ ← r.resolve; .ok (.inl .help)
  | 'V' :: _ => do let _ ← r.resolve; .ok (.inl .version)
  | c :: _ =>
    let arg := "-" ++ String.singleton c
    .error (unknownArgument arg none (!r.trailing) fullUsage)
  | [] => .ok (.inr r)

def readPositional (r : Reading) (arg : String) : Except String Reading := do
  if r.positional then
    .error (unknownArgument arg none false fullUsage)
  else
    let r ← r.resolve
    .ok { r with pending := some (.formula, [arg]), positional := true }

def readArgs (r : Reading) : List String → Except String (Sum Invocation Reading)
  | [] => .ok (.inr r)
  | arg :: rest =>
    let step : Except String (Sum Invocation Reading) :=
      if r.trailing then (readPositional r arg).map .inr
      else if arg = "--" then .ok (.inr { r with trailing := true })
      else if arg.startsWith "--" then readLong r (arg.drop 2).toString
      else if arg.startsWith "-" ∧ arg ≠ "-" then
        match readShort r (arg.drop 1).toString.toList with
        | .ok (.inr r) => .ok (.inr r)
        | other => other
      else if r.awaiting then
        match r.pending with
        | some (k, vs) => .ok (.inr { r with pending := some (k, vs ++ [arg]), awaiting := false })
        | none => (readPositional r arg).map .inr
      else (readPositional r arg).map .inr
    match step with
    | .ok (.inr r) => readArgs r rest
    | other => other

def Invocation.ofArgs (args : List String) : Invocation :=
  match readArgs {} args with
  | .error msg => .refuse msg
  | .ok (.inl i) => i
  | .ok (.inr r) =>
    match r.resolve with
    | .error msg => .refuse msg
    | .ok r =>
      let m := r.matched
      match m.formula with
      | none =>
        .refuse (usageMessage "the following required arguments were not provided:\n  <FORMULA>"
          (some (usageOf (m.used ++ [.formula]))))
      | some f => .run { formula := f, dot := m.dot, memoize := !m.noMemoize, log := m.log.getD .info }

end PropCalc.Cli
