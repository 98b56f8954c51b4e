import Walkthrough.Data.Basic
import Walkthrough.Fault
import Walkthrough.Number.Read
import Walkthrough.Settings.Basic
import Walkthrough.Settings.Variables
import Walkthrough.Text.LetterCase
import Walkthrough.Text.Utf8

/-!
Settings read from the environment and from a file of variables. Names are compared without regard
to letter case, the environment wins over the file, and every value that cannot be read is reported.
-/

namespace Walkthrough

/-- Why the value of a setting cannot be read. -/
inductive SettingCause
  /-- A text with surrogates. -/
  | notUnicode
  | notInteger
  | integerTooLong
  | notTruth
  deriving DecidableEq, Repr

namespace SettingCause

/-- The name of the cause. -/
def kind : SettingCause → String
  | notUnicode => "string_unicode"
  | notInteger => "int_parsing"
  | integerTooLong => "int_parsing_size"
  | notTruth => "bool_parsing"

def message : SettingCause → String
  | notUnicode =>
    "Input should be a valid string, unable to parse raw data as a unicode string"
  | notInteger => "Input should be a valid integer, unable to parse string as an integer"
  | integerTooLong => "Unable to parse input string as an integer, exceeded maximum size"
  | notTruth => "Input should be a valid boolean, unable to interpret input"

end SettingCause

structure SettingFault where
  name : String
  cause : SettingCause
  deriving DecidableEq, Repr

namespace Settings

open Text

/-- The number of digits with single underscores between them, given the value of those before. -/
def digitsFrom (n : Nat) : List Char → Option Nat
  | [] => some n
  | '_' :: c :: rest =>
    if isDigit c then digitsFrom (n * 10 + (c.toNat - 48)) rest else none
  | c :: rest => if isDigit c then digitsFrom (n * 10 + (c.toNat - 48)) rest else none

/-- The number of digits that begin with a zero only if it is all of them. -/
def digits? : List Char → Option Nat
  | [] => none
  | c :: rest =>
    if isDigit c && (c != '0' || rest.isEmpty) then digitsFrom (c.toNat - 48) rest else none

/-- A text without a dot and zeros at its end, at least one of them. -/
def dropZeroFraction (cs : List Char) : List Char :=
  let zeros := (cs.reverse.takeWhile (· == '0')).length
  match cs.reverse.drop zeros with
  | '.' :: front => if zeros = 0 then cs else front.reverse
  | _ => cs

/-- What follows a zero and more zeros and underscores, a minus sign or digits; where nothing does or
a fraction, the last of what was passed over stays in front of it. -/
def afterZeros (last : Char) : List Char → Option (List Char)
  | [] => some [last]
  | c :: rest =>
    if c == '0' || c == '_' then afterZeros c rest
    else if isDigit c || c == '-' then some (c :: rest)
    else if c == '.' then some (last :: c :: rest)
    else none

/-- A text without the zeros in front of its number. -/
def dropZeros : List Char → Option (List Char)
  | [] => none
  | c :: rest =>
    if c == '0' then afterZeros c rest
    else if isDigit c || c == '-' then some (c :: rest)
    else none

/-- The sign in front of a number and what follows; one sign is the most. -/
def sign? : List Char → Option (Bool × List Char)
  | '+' :: '-' :: _ => none
  | cs => some (Number.splitSign cs)

/-- An integer: a sign, digits, and a fraction of zeros. The minus sign may also stand behind zeros,
and then an underscore behind it. -/
def integer? (cs : List Char) : Option Int := do
  let (negative, rest) ← sign? cs
  match negative, dropZeroFraction (← dropZeros rest) with
  | true, body => return -(← digits? body)
  | false, '-' :: '_' :: body | false, '-' :: body => return -(← digits? body)
  | false, body => return ← digits? body

/-- An integer with white space around it; its bytes are limited. -/
def readInteger (text : String) : Except SettingCause Int :=
  let cs := text.toList.dropWhile Number.isOuterSpace
  let cs := (cs.reverse.dropWhile Number.isOuterSpace).reverse
  if Number.digitLimit < (Utf8.encode (points cs)).length then .error .integerTooLong
  else match integer? cs with
    | some n => .ok n
    | none => .error .notInteger

/-- A truth value in one of its spellings, letters of either case. -/
def readTruth (text : String) : Except SettingCause Bool :=
  let word := String.ofList (text.toList.map Char.toLower)
  if ["1", "on", "t", "true", "y", "yes"].contains word then .ok true
  else if ["0", "off", "f", "false", "n", "no"].contains word then .ok false
  else .error .notTruth

/-- A setting by its name: its value, and how a text changes it. -/
structure Field where
  name : String
  value : Settings → Data
  set : String → Settings → Except SettingCause Settings

def textField (name : String) (get : Settings → String) (set : String → Settings → Settings) :
    Field :=
  ⟨name, fun s => .text (get s), fun text s =>
    if isWhole text then .ok (set text s) else .error .notUnicode⟩

def integerField (name : String) (get : Settings → Int) (set : Int → Settings → Settings) : Field :=
  ⟨name, fun s => .int (get s), fun text s => (readInteger text).map (set · s)⟩

def truthField (name : String) (get : Settings → Bool) (set : Bool → Settings → Settings) : Field :=
  ⟨name, fun s => .bool (get s), fun text s => (readTruth text).map (set · s)⟩

/-- All settings, in the order in which their faults are reported. -/
def fields : List Field :=
  [textField "ARTIFACT_ROOT" artifactRoot fun t s => { s with artifactRoot := t },
    textField "SCREENSHOT_FOLDER" screenshotFolder fun t s => { s with screenshotFolder := t },
    truthField "PLAYWRIGHT_HEADLESS" headless fun b s => { s with headless := b },
    integerField "BROWSER_VIEWPORT_WIDTH" viewportWidth fun n s => { s with viewportWidth := n },
    integerField "BROWSER_VIEWPORT_HEIGHT" viewportHeight fun n s => { s with viewportHeight := n },
    textField "BROWSER_LOCALE" locale fun t s => { s with locale := t },
    integerField "NAVIGATION_TIMEOUT_MS" navigationTimeout
      fun n s => { s with navigationTimeout := n },
    truthField "TRACE_ENABLED" trace fun b s => { s with trace := b },
    integerField "ENTER_WAIT_TIMEOUT_MS" enterWait fun n s => { s with enterWait := n },
    truthField "ENTER_PRESS_ENTER" enterPressEnter fun b s => { s with enterPressEnter := b },
    truthField "SCROLL_INTO_VIEW" scrollIntoView fun b s => { s with scrollIntoView := b },
    textField "SCENARIO_PATTERNS" scenarioPatterns fun t s => { s with scenarioPatterns := t },
    textField "LOG_LEVEL" logLevel fun t s => { s with logLevel := t },
    textField "LOG_DIR" logDirectory fun t s => { s with logDirectory := t }]

/-- The settings by their names. -/
def entries (s : Settings) : List (String × Data) := fields.map fun f => (f.name, f.value s)

/-- A binding of a name in lower case. -/
abbrev Lowered := List (String × Option String)

/-- Bindings with their names in lower case; of those that become one the last counts. -/
def lowered (bindings : List Variables.Binding) : Lowered :=
  Assoc.ofPairs (bindings.map fun (name, value) =>
    (lower (String.ofList name), value.map String.ofList))

/-- The value of a setting: that of the environment, or else that of the file. -/
def valueOf (environment file : Lowered) (f : Field) : Option String :=
  let name := lower f.name
  ((Assoc.get? name environment).join).or (Assoc.get? name file).join

/-- Reads one setting; the settings so far stay what they are if it has no value or a bad one. -/
def readField (value : Field → Option String) (sofar : Settings × List SettingFault) (f : Field) :
    Settings × List SettingFault :=
  match value f with
  | none => sofar
  | some text =>
    match f.set text sofar.1 with
    | .ok s => (s, sofar.2)
    | .error cause => (sofar.1, sofar.2 ++ [⟨f.name, cause⟩])

/-- The settings that fields have values for, or all faults in the order of the fields. -/
def readFields (value : Field → Option String) : Except (List SettingFault) Settings :=
  match fields.foldl (readField value) ({}, []) with
  | (s, []) => .ok s
  | (_, faults) => .error faults

/-- Why an environment cannot hold a variable, if it cannot. -/
def refuseVariable : String × String → Option Foreign := fun (name, value) =>
  if (name ++ value).toList.contains '\x00' then some ⟨.value, "embedded null byte"⟩
  else if name.toList.contains '=' then some ⟨.value, "illegal environment variable name"⟩
  else if name.isEmpty then some ⟨.os, "[Errno 22] Invalid argument"⟩
  else none

/-- The settings of an environment and of the text of a file of variables. -/
def read (environment : List (String × String)) (file : Option String) :
    Except (List SettingFault) Settings :=
  let bindings : List Variables.Binding :=
    environment.map fun (name, value) => (name.toList, some value.toList)
  let set := Variables.ofText bindings ((file.getD "").toList)
  readFields (valueOf (lowered bindings) (lowered set))

end Settings

end Walkthrough
