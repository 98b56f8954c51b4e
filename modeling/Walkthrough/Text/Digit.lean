/-!
Digits: the decimal digits of all scripts (Unicode 14), hexadecimal digits, and numbers written
with a fixed count of digits.
-/

namespace Walkthrough.Text

/-- Code points of the digit zero of each script; the digits one to nine follow it. -/
def zeroDigits : List Nat := [
  0x30, 0x660, 0x6F0, 0x7C0, 0x966, 0x9E6, 0xA66, 0xAE6, 0xB66, 0xBE6, 0xC66, 0xCE6, 0xD66, 0xDE6,
  0xE50, 0xED0, 0xF20, 0x1040, 0x1090, 0x17E0, 0x1810, 0x1946, 0x19D0, 0x1A80, 0x1A90, 0x1B50,
  0x1BB0, 0x1C40, 0x1C50, 0xA620, 0xA8D0, 0xA900, 0xA9D0, 0xA9F0, 0xAA50, 0xABF0, 0xFF10, 0x104A0,
  0x10D30, 0x11066, 0x110F0, 0x11136, 0x111D0, 0x112F0, 0x11450, 0x114D0, 0x11650, 0x116C0, 0x11730,
  0x118E0, 0x11950, 0x11C50, 0x11D50, 0x11DA0, 0x16A60, 0x16AC0, 0x16B50, 0x1D7CE, 0x1D7D8, 0x1D7E2,
  0x1D7EC, 0x1D7F6, 0x1E140, 0x1E2F0, 0x1E950, 0x1FBF0]

/-- The value of a decimal digit of any script. -/
def digitValue (c : Char) : Option Nat :=
  match zeroDigits.find? (fun z => z ≤ c.toNat && c.toNat ≤ z + 9) with
  | some z => some (c.toNat - z)
  | none => none

/-- The decimal digits zero to nine of ASCII. -/
def isDigit (c : Char) : Bool := '0' ≤ c && c ≤ '9'

/-- The value of an ASCII hexadecimal digit. -/
def hexValue (c : Char) : Option Nat :=
  if isDigit c then some (c.toNat - 48)
  else if 'a' ≤ c && c ≤ 'f' then some (c.toNat - 87)
  else if 'A' ≤ c && c ≤ 'F' then some (c.toNat - 55)
  else none

/-- The number that a list of digit values writes. -/
def ofDigits (base : Nat) (ds : List Nat) : Nat := ds.foldl (fun n d => n * base + d) 0

/-- The number that ASCII digits write; anything else counts as the distance from zero. -/
def ofDecimal (cs : List Char) : Nat := ofDigits 10 (cs.map (fun c => c.toNat - 48))

/-- Left-padded with zeros to at least `width` characters. -/
def padLeft (width : Nat) (cs : List Char) : List Char :=
  List.replicate (width - cs.length) '0' ++ cs

def decimal (n : Nat) : List Char := Nat.toDigits 10 n

/-- Lower-case hexadecimal with at least `width` digits. -/
def hexPadded (width n : Nat) : List Char := padLeft width (Nat.toDigits 16 n)

/-- A number in at least `width` places, zeros in front, the sign first and counted. -/
def signedPadded (width : Nat) (n : Int) : List Char :=
  if n < 0 then '-' :: padLeft (width - 1) (decimal n.natAbs) else padLeft width (decimal n.natAbs)

end Walkthrough.Text
