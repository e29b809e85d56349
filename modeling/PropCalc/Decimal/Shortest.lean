namespace PropCalc.Decimal

/-- A finite double as `m * 2^q`, and whether its neighbour below is half as far as the one
above. -/
structure Binary where
  m : Nat
  q : Int
  narrowBelow : Bool

def Binary.ofBits (b : UInt64) : Binary :=
  let e := ((b >>> 52) &&& 0x7FF).toNat
  let f := (b &&& 0xFFFFFFFFFFFFF).toNat
  if e == 0 then ⟨f, -1074, false⟩
  else ⟨4503599627370496 + f, Int.ofNat e - 1075, f == 0 && e > 1⟩

/-- A decimal `digits * 10^exp`. -/
structure Dec where
  digits : Nat
  exp : Int

/-- The reals that round to a double, as `lo / den` to `hi / den` with the double at
`mid / den`; `closed` when the ends belong to it. -/
structure Window where
  lo : Nat
  mid : Nat
  hi : Nat
  den : Nat
  closed : Bool

def Binary.window (x : Binary) : Window :=
  let lo := if x.narrowBelow then 4 * x.m - 1 else 4 * x.m - 2
  let s := x.q - 2
  if s ≥ 0 then
    let t := Nat.pow 2 s.toNat
    ⟨lo * t, 4 * x.m * t, (4 * x.m + 2) * t, 1, x.m % 2 == 0⟩
  else ⟨lo, 4 * x.m, 4 * x.m + 2, Nat.pow 2 (-s).toNat, x.m % 2 == 0⟩

def Window.lead (w : Window) : Int :=
  if w.mid ≥ w.den then Int.ofNat (toString (w.mid / w.den)).length - 1
  else -Int.ofNat (((List.range 400).find? fun j => w.mid * Nat.pow 10 j ≥ w.den).getD 0)

def Window.onGrid (w : Window) (k : Int) : Option Dec :=
  let scale := Nat.pow 10 (-k).toNat
  let den := w.den * Nat.pow 10 k.toNat
  let lo := w.lo * scale
  let mid := w.mid * scale
  let hi := w.hi * scale
  let least := if w.closed then (lo + den - 1) / den else lo / den + 1
  let most := if w.closed then hi / den else (hi + den - 1) / den - 1
  if least > most then none
  else
    let r := mid / den
    let rem := mid % den
    let near := if 2 * rem > den || (2 * rem == den && r % 2 == 1) then r + 1 else r
    some ⟨Nat.min most (Nat.max least near), k⟩

def Binary.shortest (x : Binary) : Dec :=
  let w := x.window
  ((List.range 20).findSome? fun i => w.onGrid (w.lead + 1 - Int.ofNat i)).getD ⟨0, 0⟩

def Dec.layout (d : Dec) : String :=
  let ds := (toString d.digits).toList
  let len := Int.ofNat ds.length
  let point := len + d.exp
  let zeros (n : Int) := List.replicate n.toNat '0'
  let body :=
    if 0 ≤ d.exp && point ≤ 16 then ds ++ zeros d.exp ++ ['.', '0']
    else if 0 < point && point ≤ 16 then ds.take point.toNat ++ '.' :: ds.drop point.toNat
    else if -5 < point && point ≤ 0 then '0' :: '.' :: zeros (-point) ++ ds
    else if len == 1 then ds ++ ("e" ++ toString (point - 1)).toList
    else ds.take 1 ++ '.' :: ds.drop 1 ++ ("e" ++ toString (point - 1)).toList
  String.ofList body

def text (x : Float) : String :=
  let sign := if x.toBits >>> 63 == 1 then "-" else ""
  if x == 0 then sign ++ "0.0"
  else sign ++ (Binary.ofBits x.toBits).shortest.layout

def nearest (n : Nat) : Float :=
  if n < 18446744073709551616 then n.toUInt64.toFloat
  else
    let s := n.log2 - 63
    let top := n >>> s
    let sticky := if top <<< s == n then 0 else 1
    (top ||| sticky).toUInt64.toFloat.scaleB (Int.ofNat s)

def tenPowers : Array Float := (List.range 309).toArray.map fun k => nearest (Nat.pow 10 k)

def tenPower (k : Nat) : Float := tenPowers.getD k 0

example : Dec.layout ⟨1, 22⟩ = "1e22" := by decide
example : Dec.layout ⟨12345678901234568, 6⟩ = "1.2345678901234568e22" := by decide
example : Dec.layout ⟨1, 2⟩ = "100.0" := by decide
example : Dec.layout ⟨15, -1⟩ = "1.5" := by decide
example : Dec.layout ⟨225, -5⟩ = "0.00225" := by decide
example : Dec.layout ⟨1, -7⟩ = "1e-7" := by decide
example : (Binary.ofBits 0x3FF0000000000000).shortest.digits = 1 := by decide
example : (Binary.ofBits 0x3FB999999999999A).shortest.digits = 1 := by decide

end PropCalc.Decimal
