import Walkthrough.Text.Digit
import Walkthrough.Yaml.Node

/-!
Tags of scalars without one: what a plain scalar looks like decides whether it is a truth value, a
number, a timestamp, nothing, a merge or plain text. A line feed at the very end does not count.
-/

namespace Walkthrough.Yaml

open Text

/-- The text behind a sign. -/
def dropSign : List Char → List Char
  | '-' :: rest => rest
  | '+' :: rest => rest
  | cs => cs

def isDigitOrLine (c : Char) : Bool := isDigit c || c == '_'

def truthWords : List String :=
  ["yes", "Yes", "YES", "no", "No", "NO", "true", "True", "TRUE", "false", "False", "FALSE",
    "on", "On", "ON", "off", "Off", "OFF"]

/-- Groups of minutes or seconds, each after a colon; what follows the last of them, if there is at
least one. -/
def afterSixties : Nat → List Char → Option (List Char)
  | 0, _ => none
  | fuel + 1, cs =>
    match cs with
    | ':' :: a :: rest =>
      if !isDigit a then none
      else match rest with
        | b :: more =>
          if '0' ≤ a && a ≤ '5' && isDigit b then
            some ((afterSixties fuel more).getD more)
          else some ((afterSixties fuel rest).getD rest)
        | [] => some []
    | _ => none

/-- An exponent with its sign, which may be left out as a whole. -/
def isExponent : List Char → Bool
  | [] => true
  | e :: sign :: digits =>
    (e == 'e' || e == 'E') && (sign == '-' || sign == '+') && !digits.isEmpty && digits.all isDigit
  | _ => false

/-- A number with a point. -/
def looksFloat (cs : List Char) : Bool :=
  let body := dropSign cs
  let afterDigits := body.dropWhile isDigitOrLine
  let digitFirst := (body.head?.map isDigit).getD false
  let word := String.ofList body
  (digitFirst && match afterDigits with
    | '.' :: rest => isExponent (rest.dropWhile isDigitOrLine)
    | _ => match afterSixties body.length afterDigits with
      | some ('.' :: rest) => rest.all isDigitOrLine
      | _ => false) ||
  (match cs with
    | '.' :: d :: rest => isDigit d && isExponent (rest.dropWhile isDigitOrLine)
    | _ => false) ||
  [".inf", ".Inf", ".INF"].contains word ||
  [".nan", ".NaN", ".NAN"].contains (String.ofList cs)

def looksInt (cs : List Char) : Bool :=
  match dropSign cs with
  | [] => false
  | '0' :: 'b' :: digits => !digits.isEmpty && digits.all (fun c => c == '0' || c == '1' || c == '_')
  | '0' :: 'x' :: digits =>
    !digits.isEmpty && digits.all (fun c => (hexValue c).isSome || c == '_')
  | '0' :: digits => digits.all (fun c => ('0' ≤ c && c ≤ '7') || c == '_')
  | d :: digits =>
    isDigit d &&
      match digits.dropWhile isDigitOrLine with
      | [] => true
      | rest => afterSixties rest.length rest == some []

/-- `n` digits at the front, and what follows. -/
def takeDigits (n : Nat) (cs : List Char) : Option (List Char × List Char) :=
  let ds := cs.take n
  if ds.length == n && ds.all isDigit then some (ds, cs.drop n) else none

/-- One or two digits at the front, and what follows. -/
def takeOneOrTwo (cs : List Char) : Option (List Char × List Char) :=
  (takeDigits 2 cs).orElse fun _ => takeDigits 1 cs

/-- What follows a character. -/
def afterChar (c : Char) : List Char → Option (List Char)
  | d :: rest => if d == c then some rest else none
  | [] => none

/-- The time zone of a timestamp. -/
inductive Zone
  | utc
  | offset (negative : Bool) (hours minutes : Nat)
  deriving DecidableEq, Repr

structure Clock where
  hour : Nat
  minute : Nat
  second : Nat
  /-- The digits after the point. -/
  fraction : List Char
  zone : Option Zone
  deriving DecidableEq, Repr

/-- The parts of a timestamp, a date alone or with a time. -/
structure Stamp where
  year : Nat
  month : Nat
  day : Nat
  clock : Option Clock
  deriving DecidableEq, Repr

def isTabOrSpace (c : Char) : Bool := c == ' ' || c == '\t'

/-- The zone that a text is as a whole, blanks in front of it left aside. -/
def readZone (cs : List Char) : Option (Option Zone) :=
  match cs with
  | [] => some none
  | _ =>
    match cs.dropWhile isTabOrSpace with
    | ['Z'] => some (some .utc)
    | sign :: rest =>
      if sign == '-' || sign == '+' then
        match takeOneOrTwo rest with
        | some (hours, []) => some (some (.offset (sign == '-') (ofDecimal hours) 0))
        | some (hours, ':' :: rest) =>
          match takeDigits 2 rest with
          | some (minutes, []) =>
            some (some (.offset (sign == '-') (ofDecimal hours) (ofDecimal minutes)))
          | _ => none
        | _ => none
      else none
    | [] => none

def readClock (cs : List Char) : Option Clock := do
  let (hour, rest) ← takeOneOrTwo cs
  let (minute, rest) ← takeDigits 2 (← afterChar ':' rest)
  let (second, rest) ← takeDigits 2 (← afterChar ':' rest)
  let (fraction, rest) := match rest with
    | '.' :: rest => (rest.takeWhile isDigit, rest.dropWhile isDigit)
    | rest => ([], rest)
  let zone ← readZone rest
  return ⟨ofDecimal hour, ofDecimal minute, ofDecimal second, fraction, zone⟩

/-- A timestamp. Month and day may have one digit. -/
def readStamp (cs : List Char) : Option Stamp := do
  let (year, rest) ← takeDigits 4 cs
  let (month, rest) ← takeOneOrTwo (← afterChar '-' rest)
  let (day, rest) ← takeOneOrTwo (← afterChar '-' rest)
  let stamp := fun clock => Stamp.mk (ofDecimal year) (ofDecimal month) (ofDecimal day) clock
  match rest with
  | [] => some (stamp none)
  | c :: more =>
    if c == 'T' || c == 't' then some (stamp (some (← readClock more)))
    else if isTabOrSpace c then some (stamp (some (← readClock (more.dropWhile isTabOrSpace))))
    else none

/-- A date without a time has two digits everywhere. -/
def looksStamp (cs : List Char) : Bool :=
  match readStamp cs with
  | some stamp => stamp.clock.isSome || cs.length == 10
  | none => false

/-- The name of the tag that a plain scalar has by its look. -/
def lookOf (cs : List Char) : String :=
  let word := String.ofList cs
  if truthWords.contains word then "bool"
  else if looksFloat cs then "float"
  else if looksInt cs then "int"
  else if word == "<<" then "merge"
  else if ["~", "null", "Null", "NULL"].contains word then "null"
  else if looksStamp cs then "timestamp"
  else if word == "=" then "value"
  else if ["!", "&", "*"].contains word then "yaml"
  else "str"

/-- The tag of a plain scalar without one. -/
def untaggedScalar (text : CodePoints) : String :=
  if text.isEmpty then standardTag "null"
  else match text.toChars? with
    | none => standardTag "str"
    | some cs =>
      standardTag <|
        if cs.getLast? == some '\n' && 1 < cs.length then lookOf cs.dropLast else lookOf cs

end Walkthrough.Yaml
