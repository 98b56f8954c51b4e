import Walkthrough.Data.Display
import Walkthrough.Number.Read
import Walkthrough.Text.LetterCase
import Walkthrough.Yaml.Node.Untagged

/-!
Values of scalars: what the text of a scalar stands for under each of the standard tags. A text that
does not fit its tag is a failure of the conversion, with its own wording.
-/

namespace Walkthrough.Yaml

open Text

private def failure {α : Type} (kind : ForeignKind) (message : String) : Except Fault α :=
  .error (.conversion ⟨kind, message⟩)

def lowerUnits (units : CodePoints) : CodePoints := points (lower units.text).toList

def dropLines (units : CodePoints) : CodePoints := units.filter (· != '_'.toNat)

/-- Truth values have their words in any letter case. -/
def truthValue (units : CodePoints) : Except Fault Data :=
  match (lowerUnits units).text with
  | "yes" | "true" | "on" => .ok (.bool true)
  | "no" | "false" | "off" => .ok (.bool false)
  | word => failure .key (quoted word)

/-- The sign of a number and the text after it; there must be some text. -/
def splitUnits (units : CodePoints) : Except Fault (Bool × CodePoints) :=
  match units with
  | [] => failure .index "string index out of range"
  | n :: rest =>
    if n == '-'.toNat then .ok (true, rest)
    else if n == '+'.toNat then .ok (false, rest)
    else .ok (false, units)

/-- The parts of a text between colons. -/
def splitSixties : CodePoints → List CodePoints
  | [] => [[]]
  | n :: rest =>
    if n == ':'.toNat then [] :: splitSixties rest
    else match splitSixties rest with
      | [] => [[n]]
      | part :: parts => (n :: part) :: parts

def integer (base : Nat) (units : CodePoints) : Except Fault Int :=
  match (units.toChars?.map (Number.readInt base)).getD (.error .malformed) with
  | .ok n => .ok n
  | .error (.tooManyDigits count) => failure .value (Number.IntFault.tooManyText count)
  | .error .malformed => failure .value (Number.malformedText base units.text)

/-- An integer: binary, octal, hexadecimal, decimal, or digits to the base sixty between colons. -/
def integerValue (units : CodePoints) : Except Fault Data := do
  let (negative, units) ← splitUnits (dropLines units)
  let n ← (match units.text, units with
    | "0", _ => .ok 0
    | _, 48 :: 98 :: digits => integer 2 digits
    | _, 48 :: 120 :: digits => integer 16 digits
    | _, 48 :: _ => integer 8 units
    | _, [] => failure .index "string index out of range"
    | _, _ => do
      if units.contains ':'.toNat then
        let parts ← (splitSixties units).mapM (integer 10)
        return parts.foldl (fun n d => n * 60 + d) 0
      else integer 10 units)
  return .int (if negative then -n else n)

def decimal (units : CodePoints) : Except Fault Binary64 :=
  match units.toChars?.bind Number.readFloat with
  | some x => .ok x
  | none => failure .value ("could not convert string to float: " ++ quoted units.text)

/-- The sum of numbers to the base sixty, the last one first. -/
def sixties (base : Nat) (sum : Binary64) : List Binary64 → Except Fault Binary64
  | [] => .ok sum
  | x :: rest =>
    match Binary64.ofNat base with
    | .infinite _ => failure .overflow "int too large to convert to float"
    | b => sixties (base * 60) (sum.add (x.mul b)) rest

def decimalValue (units : CodePoints) : Except Fault Data := do
  let (negative, units) ← splitUnits (lowerUnits (dropLines units))
  let x ← (match units.text with
    | ".inf" => .ok (.infinite false)
    | ".nan" => .ok .nan
    | _ => do
      if units.contains ':'.toNat then
        let parts ← (splitSixties units).mapM decimal
        sixties 1 .zero parts.reverse
      else decimal units)
  return .float (if negative then x.neg else x)

/-- A code point as an escape. -/
def escapedUnit (n : Nat) : String :=
  String.ofList (if n ≤ 0xFF then '\\' :: 'x' :: hexPadded 2 n
    else if n ≤ 0xFFFF then '\\' :: 'u' :: hexPadded 4 n
    else '\\' :: 'U' :: hexPadded 8 n)

/-- Why a text is not ASCII: its first code points outside. -/
def notAsciiText (units : CodePoints) : String :=
  let start := (units.takeWhile (· < 128)).length
  let run := (units.drop start).takeWhile (128 ≤ ·)
  "'ascii' codec can't encode " ++
    (match run with
      | [n] => "character '" ++ escapedUnit n ++ "' in position " ++ toString start
      | _ => "characters in position " ++ toString start ++ "-" ++
          toString (start + run.length - 1)) ++ ": ordinal not in range(128)"

/-- The value of a digit to the base sixty-four. -/
def sextet (n : Nat) : Option Nat :=
  if 65 ≤ n && n ≤ 90 then some (n - 65)
  else if 97 ≤ n && n ≤ 122 then some (n - 71)
  else if 48 ≤ n && n ≤ 57 then some (n + 4)
  else if n == 43 then some 62
  else if n == 47 then some 63
  else none

/-- Bytes from sextets: `place` is the position in the group of four, `left` the bits left over and
`pads` the count of pads just read. Other characters are left aside, and the group that the pads
fill up is the last one. -/
def unbase64 (place left pads : Nat) (acc : List UInt8) : CodePoints → Except String (List UInt8)
  | [] =>
    if place == 0 then .ok acc.reverse
    else if place == 1 then
      .error ("Invalid base64-encoded string: number of data characters (" ++
        toString (acc.length / 3 * 4 + 1) ++ ") cannot be 1 more than a multiple of 4")
    else .error "Incorrect padding"
  | n :: rest =>
    if n == 61 then
      if 2 ≤ place then
        if 4 ≤ place + pads + 1 then .ok acc.reverse else unbase64 place left (pads + 1) acc rest
      else unbase64 place left pads acc rest
    else match sextet n with
      | none => unbase64 place left pads acc rest
      | some v =>
        match place with
        | 0 => unbase64 1 v 0 acc rest
        | 1 => unbase64 2 (v % 16) 0 ((left * 4 + v / 16).toUInt8 :: acc) rest
        | 2 => unbase64 3 (v % 4) 0 ((left * 16 + v / 4).toUInt8 :: acc) rest
        | _ => unbase64 0 0 0 ((left * 64 + v).toUInt8 :: acc) rest

/-- Bytes written to the base sixty-four. -/
def bytesValue (line : Nat) (units : CodePoints) : Except Fault Data :=
  if units.any (128 ≤ ·) then .error (.problem (.notAscii (notAsciiText units)) line)
  else match unbase64 0 0 0 [] units with
    | .ok bytes => .ok (.bytes bytes)
    | .error text => .error (.problem (.badBase64 text) line)

def isLeapYear (y : Nat) : Bool := y % 4 == 0 && (y % 100 != 0 || y % 400 == 0)

def daysInMonth (y m : Nat) : Nat :=
  if m == 2 then (if isLeapYear y then 29 else 28)
  else if m == 4 || m == 6 || m == 9 || m == 11 then 30 else 31

def checkDate (d : Date) : Except Fault Date :=
  if d.year == 0 then failure .value "year 0 is out of range"
  else if d.month == 0 || 12 < d.month then failure .value "month must be in 1..12"
  else if d.day == 0 || daysInMonth d.year d.month < d.day then
    failure .value "day is out of range for month"
  else .ok d

/-- The distance of a zone from universal time in seconds, less than a day. -/
def Zone.seconds : Zone → Except Fault Int
  | .utc => .ok 0
  | .offset negative hours minutes =>
    let n : Int := hours * 3600 + minutes * 60
    let n := if negative then -n else n
    if 86400 ≤ n.natAbs then
      failure .value ("offset must be a timedelta strictly between -timedelta(hours=24) and " ++
        "timedelta(hours=24), not " ++ displaySpan n ++ ".")
    else .ok n

def checkClock (c : Clock) : Except Fault Unit :=
  if 23 < c.hour then failure .value "hour must be in 0..23"
  else if 59 < c.minute then failure .value "minute must be in 0..59"
  else if 59 < c.second then failure .value "second must be in 0..59"
  else .ok ()

/-- A date, or a moment if there is a time. -/
def Stamp.value (s : Stamp) : Except Fault Data := do
  let date : Date := ⟨s.year, s.month, s.day⟩
  match s.clock with
  | none => return .date (← checkDate date)
  | some c =>
    let offset ← c.zone.mapM Zone.seconds
    let date ← checkDate date
    checkClock c
    let micro := (c.fraction ++ List.replicate 6 '0').take 6
    return .moment ⟨date, c.hour, c.minute, c.second, ofDecimal micro, offset⟩

def stampValue (units : CodePoints) : Except Fault Data :=
  let stamp := units.toChars?.bind fun cs =>
    readStamp (if cs.getLast? == some '\n' then cs.dropLast else cs)
  match stamp with
  | some s => s.value
  | none => failure .attribute "'NoneType' object has no attribute 'groupdict'"

end Walkthrough.Yaml
