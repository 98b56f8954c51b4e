/-!
Double-precision numbers by exact arithmetic. A finite number is a sign and `m * 2 ^ e`; `ofRatio`
rounds a quotient of naturals to the nearest one, a tie to the even significand, and sums and
products are rounded from their exact values.
-/

namespace Walkthrough

/-- A double-precision number. A finite one that `ofRatio` builds is normal (`2 ^ 52 ≤ m < 2 ^ 53`)
or has the least exponent. -/
inductive Binary64
  | nan
  | infinite (negative : Bool)
  | finite (negative : Bool) (m : Nat) (e : Int)
  deriving DecidableEq, Repr, Inhabited

namespace Binary64

/-- The exponent of the smallest positive number. -/
def leastExponent : Int := -1074

/-- `num / den` rounded to the nearest integer, a tie to the even one. -/
def roundDiv (num den : Nat) : Nat :=
  let q := num / den
  let r := num % den
  if 2 * r < den then q else if den < 2 * r then q + 1 else q + q % 2

/-- The exponent that leaves `num / den` a significand of 53 bits, or the least one. -/
def exponentOf (num den : Nat) : Int :=
  let k : Int := (num.log2 : Int) - den.log2
  let e := k - 52
  let least := Nat.pow 2 52 * den
  let fits := if 0 ≤ e then least * Nat.pow 2 e.toNat ≤ num else least ≤ num * Nat.pow 2 (-e).toNat
  max (if fits then e else e - 1) leastExponent

/-- The number with the significand `m` and the exponent `e`, out of range when the value reaches
`2 ^ 1024`. -/
def pack (negative : Bool) (m : Nat) (e : Int) : Binary64 :=
  if m == Nat.pow 2 53 then
    if 970 < e then infinite negative else finite negative (Nat.pow 2 52) (e + 1)
  else if 971 < e then infinite negative else finite negative m e

/-- The number nearest to `num / den`. -/
def ofRatio (negative : Bool) (num den : Nat) : Binary64 :=
  if num == 0 then finite negative 0 leastExponent
  else
    let e := exponentOf num den
    let m :=
      if 0 ≤ e then roundDiv num (den * Nat.pow 2 e.toNat)
      else roundDiv (num * Nat.pow 2 (-e).toNat) den
    pack negative m e

/-- The number nearest to `digits * 10 ^ exponent`. An exponent far outside the range is decided by
the count of the digits, without the power. -/
def ofDecimal (negative : Bool) (digits : Nat) (exponent : Int) : Binary64 :=
  let size : Int := (Nat.toDigits 10 digits).length
  if digits == 0 then finite negative 0 leastExponent
  else if 400 < exponent + size then infinite negative
  else if exponent + size < -400 then finite negative 0 leastExponent
  else if 0 ≤ exponent then ofRatio negative (digits * Nat.pow 10 exponent.toNat) 1
  else ofRatio negative digits (Nat.pow 10 (-exponent).toNat)

def zero : Binary64 := finite false 0 leastExponent

def ofNat (n : Nat) : Binary64 := ofRatio false n 1

def neg : Binary64 → Binary64
  | nan => nan
  | infinite s => infinite (!s)
  | finite s m e => finite (!s) m e

/-- A finite value as an integer multiple of `2 ^ leastExponent`. -/
def units (negative : Bool) (m : Nat) (e : Int) : Int :=
  let n : Int := m * Nat.pow 2 (e - leastExponent).toNat
  if negative then -n else n

/-- The number nearest to a multiple of `2 ^ leastExponent`; zero takes the given sign. -/
def ofUnits (negativeZero : Bool) (n : Int) : Binary64 :=
  if n == 0 then finite negativeZero 0 leastExponent
  else ofRatio (n < 0) n.natAbs (Nat.pow 2 1074)

def add : Binary64 → Binary64 → Binary64
  | nan, _ => nan
  | _, nan => nan
  | infinite s, infinite t => if s == t then infinite s else nan
  | infinite s, _ => infinite s
  | _, infinite t => infinite t
  | finite s m e, finite t n f => ofUnits (s && t) (units s m e + units t n f)

def mul : Binary64 → Binary64 → Binary64
  | nan, _ => nan
  | _, nan => nan
  | infinite s, infinite t => infinite (s != t)
  | infinite s, finite t n _ => if n == 0 then nan else infinite (s != t)
  | finite s m _, infinite t => if m == 0 then nan else infinite (s != t)
  | finite s m e, finite t n f =>
    let k := e + f
    if 0 ≤ k then ofRatio (s != t) (m * n * Nat.pow 2 k.toNat) 1
    else ofRatio (s != t) (m * n) (Nat.pow 2 (-k).toNat)

/-- The integer a number is equal to, if there is one. -/
def toInt? : Binary64 → Option Int
  | finite s m e =>
    if 0 ≤ e then some ((if s then -1 else 1) * (m * Nat.pow 2 e.toNat : Nat))
    else
      let d := Nat.pow 2 (-e).toNat
      if m % d == 0 then some ((if s then -1 else 1) * (m / d : Nat)) else none
  | _ => none

/-- Numerical equality: zeros are equal whatever their sign, and a NaN equals nothing. -/
def equal : Binary64 → Binary64 → Bool
  | finite s m e, finite t n f => units s m e == units t n f
  | infinite s, infinite t => s == t
  | _, _ => false

end Binary64

end Walkthrough
