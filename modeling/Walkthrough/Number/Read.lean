import Walkthrough.Number.Binary64
import Walkthrough.Text.Blank
import Walkthrough.Text.Digit
import Walkthrough.Text.Quoted

/-!
Numbers read from text: integers in a base and decimal numbers, with digits of any script and white
space around them.
-/

namespace Walkthrough.Number

open Text

/-- Why a text is no integer. -/
inductive IntFault
  | malformed
  | tooManyDigits (count : Nat)
  deriving DecidableEq, Repr

/-- Digits of the longest decimal integer that is converted. -/
def digitLimit : Nat := 4300

def IntFault.tooManyText (count : Nat) : String :=
  "Exceeds the limit (" ++ toString digitLimit ++
    " digits) for integer string conversion: value has " ++ toString count ++
    " digits; use sys.set_int_max_str_digits() to increase the limit"

/-- A text is no integer in a base; a long one is cut. -/
def malformedText (base : Nat) (s : String) : String :=
  "invalid literal for int() with base " ++ toString base ++ ": " ++
    String.ofList ((quoted s).toList.take 200)

/-- An integer has too many digits to be written. -/
def overlongText : String :=
  "Exceeds the limit (" ++ toString digitLimit ++
    " digits) for integer string conversion; use sys.set_int_max_str_digits() to increase the limit"

/-- Whether an integer has more digits than are written. -/
def isOverlong (n : Int) : Bool := Nat.pow 10 digitLimit ≤ n.natAbs

/-- White space that may stand around a number, the ASCII separators left out. -/
def isOuterSpace (c : Char) : Bool := isBlank c && !(28 ≤ c.toNat && c.toNat ≤ 31)

/-- A digit of any script as an ASCII digit. -/
def asciiDigit (c : Char) : Char :=
  match digitValue c with
  | some d => Char.ofNat (48 + d)
  | none => c

/-- A number's text without the space around it, its digits in ASCII. -/
def plainDigits (cs : List Char) : List Char :=
  let cs := cs.dropWhile isOuterSpace
  (cs.reverse.dropWhile isOuterSpace).reverse.map asciiDigit

/-- The sign in front of a number and what follows. -/
def splitSign : List Char → Bool × List Char
  | '-' :: rest => (true, rest)
  | '+' :: rest => (false, rest)
  | cs => (false, cs)

/-- The letter that may follow a zero in front of digits of a base. -/
def baseLetter (base : Nat) (c : Char) : Bool :=
  (base == 2 && (c == 'b' || c == 'B')) || (base == 8 && (c == 'o' || c == 'O')) ||
  (base == 16 && (c == 'x' || c == 'X'))

def dropBaseMark (base : Nat) : List Char → List Char
  | '0' :: c :: rest => if baseLetter base c then rest else '0' :: c :: rest
  | cs => cs

/-- The value of a digit of a base. -/
def digitIn (base : Nat) (c : Char) : Option Nat := (hexValue c).filter (· < base)

/-- An integer in base 2, 8, 10 or 16; only the digits of a decimal one are limited. They are counted
up to the first character that is none. -/
def readInt (base : Nat) (cs : List Char) : Except IntFault Int :=
  let (negative, rest) := splitSign (plainDigits cs)
  let text := dropBaseMark base rest
  let count := (text.takeWhile (fun c => (digitIn base c).isSome)).length
  if base == 10 && digitLimit < count then .error (.tooManyDigits count)
  else if count == 0 then .error .malformed
  else match text.mapM (digitIn base) with
    | none => .error .malformed
    | some ds =>
      let n : Int := ofDigits base ds
      .ok (if negative then -n else n)

/-- An exponent, if the text after the digits is one. -/
def readExponent : List Char → Option Int
  | [] => some 0
  | e :: rest =>
    if e == 'e' || e == 'E' then
      let (negative, digits) := splitSign rest
      if digits.isEmpty || !digits.all isDigit then none
      else some (if negative then -(ofDecimal digits : Int) else ofDecimal digits)
    else none

/-- A decimal number without its sign. -/
def readMagnitude (negative : Bool) (cs : List Char) : Option Binary64 :=
  let whole := cs.takeWhile isDigit
  let (fraction, rest) := match cs.dropWhile isDigit with
    | '.' :: rest => (rest.takeWhile isDigit, rest.dropWhile isDigit)
    | rest => ([], rest)
  if whole.isEmpty && fraction.isEmpty then none
  else (readExponent rest).map fun e =>
    .ofDecimal negative (ofDecimal (whole ++ fraction)) (e - fraction.length)

/-- A decimal number, infinity or NaN, the words in any letter case. -/
def readFloat (cs : List Char) : Option Binary64 :=
  let (negative, rest) := splitSign (plainDigits cs)
  let word := String.ofList (rest.map Char.toLower)
  if word == "inf" || word == "infinity" then some (.infinite negative)
  else if word == "nan" then some .nan
  else readMagnitude negative rest

end Walkthrough.Number
