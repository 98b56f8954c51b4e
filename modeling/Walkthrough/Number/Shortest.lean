import Walkthrough.Number.Binary64

/-!
The shortest decimal that reads back as a given double. For growing counts of digits the two
neighbours of the value on that decimal grid are tested against the interval of reals that round to
it; the first grid with a hit gives the digits, the nearer of two hits wins.
-/

namespace Walkthrough.Number

/-- A positive rational number as a quotient. -/
structure Ratio where
  num : Nat
  den : Nat

namespace Ratio

def le (a b : Ratio) : Bool := a.num * b.den ≤ b.num * a.den

def lt (a b : Ratio) : Bool := a.num * b.den < b.num * a.den

/-- `m * 2 ^ e`. -/
def ofPower (m : Nat) (e : Int) : Ratio :=
  if 0 ≤ e then ⟨m * Nat.pow 2 e.toNat, 1⟩ else ⟨m, Nat.pow 2 (-e).toNat⟩

/-- `d * 10 ^ k`. -/
def ofDecimal (d : Nat) (k : Int) : Ratio :=
  if 0 ≤ k then ⟨d * Nat.pow 10 k.toNat, 1⟩ else ⟨d, Nat.pow 10 (-k).toNat⟩

/-- The distance of two numbers. -/
def dist (a b : Ratio) : Ratio :=
  let x := a.num * b.den
  let y := b.num * a.den
  ⟨(x - y) + (y - x), a.den * b.den⟩

end Ratio

/-- The reals that round to `m * 2 ^ e`: the midpoints to its neighbours, which belong to it when
`m` is even. Below a power of two the neighbours stand twice as close. -/
structure Interval where
  low : Ratio
  high : Ratio
  closed : Bool

def Interval.of (m : Nat) (e : Int) : Interval :=
  let low :=
    if m == Nat.pow 2 52 && Binary64.leastExponent < e then Ratio.ofPower (4 * m - 1) (e - 2)
    else Ratio.ofPower (2 * m - 1) (e - 1)
  ⟨low, Ratio.ofPower (2 * m + 1) (e - 1), m % 2 == 0⟩

def Interval.contains (i : Interval) (x : Ratio) : Bool :=
  if i.closed then i.low.le x && x.le i.high else i.low.lt x && x.lt i.high

/-- The position of the decimal point: the `k` with `10 ^ (k - 1) ≤ x < 10 ^ k`, searched upwards
from an estimate that is not above it. -/
def pointFrom (x : Ratio) (k : Int) : Nat → Int
  | 0 => k
  | fuel + 1 => if x.lt (Ratio.ofDecimal 1 k) then k else pointFrom x (k + 1) fuel

/-- The position of the decimal point of `m * 2 ^ e`. -/
def point (m : Nat) (e : Int) : Int :=
  pointFrom (Ratio.ofPower m e) (((m.log2 : Int) + e) * 30103 / 100000 - 1) 4

/-- The best hit among the neighbours of the value on the grid of the multiples of `10 ^ k`. -/
def hit (x : Ratio) (i : Interval) (k : Int) : Option Nat :=
  let q :=
    if 0 ≤ k then x.num / (x.den * Nat.pow 10 k.toNat) else x.num * Nat.pow 10 (-k).toNat / x.den
  let a := Ratio.ofDecimal q k
  let b := Ratio.ofDecimal (q + 1) k
  match i.contains a && 0 < q, i.contains b with
  | true, false => some q
  | false, true => some (q + 1)
  | true, true =>
    if (x.dist a).lt (x.dist b) then some q
    else if (x.dist b).lt (x.dist a) then some (q + 1)
    else some (q + q % 2)
  | false, false => none

/-- The digits found on the first grid with a hit, from `n` digits on. -/
def digitsFrom (x : Ratio) (i : Interval) (p : Int) (n : Nat) : Nat → Nat × Int
  | 0 => (0, 0)
  | fuel + 1 =>
    match hit x i (p - n) with
    | some d => (d, p - n)
    | none => digitsFrom x i p (n + 1) fuel

/-- The shortest `d` and `k` with `d * 10 ^ k` reading back as `m * 2 ^ e`; seventeen digits always
do. -/
def shortest (m : Nat) (e : Int) : Nat × Int :=
  digitsFrom (Ratio.ofPower m e) (Interval.of m e) (point m e) 1 17

/-- The digits of a number without the zeros at its end, and how many there were. -/
def dropTrailingZeros (ds : List Char) : List Char := (ds.reverse.dropWhile (· == '0')).reverse

/-- Digits with the decimal point after the first `p` of them, a digit on both sides. -/
def positional (ds : List Char) (p : Int) : List Char :=
  if p ≤ 0 then '0' :: '.' :: (List.replicate (-p).toNat '0' ++ ds)
  else if ds.length ≤ p.toNat then ds ++ List.replicate (p.toNat - ds.length) '0' ++ ['.', '0']
  else ds.take p.toNat ++ '.' :: ds.drop p.toNat

/-- Digits with an exponent of at least two digits and a sign. -/
def scientific (ds : List Char) (p : Int) : List Char :=
  let x := p - 1
  let exponent := Nat.toDigits 10 x.natAbs
  (match ds with
    | [] => []
    | [d] => [d]
    | d :: rest => d :: '.' :: rest) ++
  'e' :: (if x < 0 then '-' else '+') :: (if exponent.length < 2 then '0' :: exponent else exponent)

/-- A number between `10 ^ -4` and `10 ^ 16` is written positionally, any other with an exponent. -/
def magnitude (m : Nat) (e : Int) : List Char :=
  if m == 0 then ['0', '.', '0']
  else
    let (d, k) := shortest m e
    let all := Nat.toDigits 10 d
    let p := all.length + k
    let ds := dropTrailingZeros all
    if -4 < p && p ≤ 16 then positional ds p else scientific ds p

end Walkthrough.Number

namespace Walkthrough

/-- The shortest text that reads back as the number. -/
def Binary64.text : Binary64 → String
  | .nan => "nan"
  | .infinite s => if s then "-inf" else "inf"
  | .finite s m e => String.ofList ((if s then ['-'] else []) ++ Number.magnitude m e)

end Walkthrough
