import Walkthrough.Scenario.Basic
import Walkthrough.Text.LetterCase

/-!
Lines of the script form of a scenario: the lines of a text that count, what a line opens, the
`name: value` pairs, and everything that can be wrong with a line.
-/

namespace Walkthrough.Script

/-- A line that counts: its number in the text and its characters without the white space at the
ends. -/
structure Line where
  number : Nat
  text : List Char
  deriving DecidableEq, Repr

/-- Blank lines and lines that start with two slashes do not count. -/
def counts (line : List Char) : Bool := !line.isEmpty && !(['/', '/'].isPrefixOf line)

/-- The lines that count, the first of the given lines having the number `n`. -/
def linesFrom (n : Nat) : List (List Char) → List Line
  | [] => []
  | raw :: rest =>
    if counts (Text.trim raw) then ⟨n, Text.trim raw⟩ :: linesFrom (n + 1) rest
    else linesFrom (n + 1) rest

def significantLines (text : List Char) : List Line := linesFrom 1 (Text.lines text)

/-- What a line opens, whatever stands around it. -/
inductive Opening
  | host (value : List Char)
  | features
  | page (name : List Char)
  deriving DecidableEq, Repr

/-- The word `Page` opens a page if it stands alone or white space follows it. -/
def pageName? (line : List Char) : Option (List Char) :=
  match ['P', 'a', 'g', 'e'].isPrefixOf? line with
  | none => none
  | some [] => some []
  | some (c :: rest) => if Text.isBlank c then some (Text.trim rest) else none

def opening? (line : List Char) : Option Opening :=
  match ['H', 'o', 's', 't', ':'].isPrefixOf? line with
  | some value => some (.host (Text.trim value))
  | none =>
    if line = ['F', 'e', 'a', 't', 'u', 'r', 'e', 's', ':'] then some .features
    else (pageName? line).map .page

/-- The line that introduces the expected values of a page. -/
def expectedLine : List Char := ['e', 'x', 'p', 'e', 'c', 't', 'e', 'd', ':']

/-- The line that introduces the action of a page. -/
def actionLine : List Char := ['a', 'c', 't', 'i', 'o', 'n', ':']

/-- What stands after `fields:` on a line that starts with it. -/
def fieldsRest? (line : List Char) : Option (List Char) :=
  (['f', 'i', 'e', 'l', 'd', 's', ':'].isPrefixOf? line).map Text.trim

/-- What stands after the dash of a list item. -/
def itemRest? : List Char → Option (List Char)
  | '-' :: rest => some rest
  | _ => none

/-- The name in a feature's heading, the text after the dash being `name:`. -/
def featureName? (rest : List Char) : Option (List Char) :=
  match (Text.trim rest).getLast? with
  | some ':' =>
    let name := Text.trim (Text.trim rest).dropLast
    if name.isEmpty then none else some name
  | _ => none

/-- A value without the double quotes around it. -/
def unquote (value : List Char) : List Char :=
  match value with
  | '"' :: rest => if rest.getLast? = some '"' then rest.dropLast else value
  | _ => value

/-- The two sides of the first colon, trimmed; the first side must not be blank. -/
def pair? (text : List Char) : Option (List Char × List Char) :=
  match Text.splitAtFirst (· = ':') text with
  | (_, []) => none
  | (key, _ :: value) =>
    if (Text.trim key).isEmpty then none else some (Text.trim key, Text.trim value)

/-- A truth value in any letter case. -/
def truth? (value : List Char) : Option Bool :=
  let lowered := Text.lower (String.ofList (Text.trim value))
  if lowered = "true" then some true else if lowered = "false" then some false else none

/-- Where a `name: value` pair stands. -/
inductive PairKind
  | featureSetting
  | expectedElement
  | actionProperty
  | field
  deriving DecidableEq, Repr

def PairKind.name : PairKind → String
  | .featureSetting => "feature setting"
  | .expectedElement => "expected element"
  | .actionProperty => "action property"
  | .field => "field"

/-- The properties that an action block may set. -/
inductive Property
  | type
  | target
  | targetField
  | value
  deriving DecidableEq, Repr

/-- The name under which an action is built from the property. -/
def Property.key : Property → String
  | .type => "type"
  | .target => "target"
  | .targetField => "targetField"
  | .value => "value"

def Property.ofName? (name : List Char) : Option Property :=
  if name = ['t', 'y', 'p', 'e'] then some .type
  else if name = ['t', 'a', 'r', 'g', 'e', 't'] then some .target
  else if name = ['t', 'a', 'r', 'g', 'e', 't', '-', 'f', 'i', 'e', 'l', 'd'] then some .targetField
  else if name = ['v', 'a', 'l', 'u', 'e'] then some .value
  else none

/-- What can be wrong with a script. -/
inductive LineFault
  | hostAfterPage
  | secondHost
  | emptyHost
  | featuresAfterPage
  | pageBeforeHost
  | emptyPageName
  | strayLine (line : List Char)
  | badFeature (line : List Char)
  | secondFeature (name : String)
  | straySetting (line : List Char)
  | badPair (kind : PairKind) (text : List Char)
  | badEnable (value : List Char)
  | reservedKey (key : List Char)
  | badPageLine (line : List Char)
  | badExpected (line : List Char)
  | fieldsValue
  | unknownProperty (name : List Char)
  | secondProperty (name : List Char)
  | secondAction (page : String)
  | noAction (page : String)
  | action (fault : ActionFault)
  | noHost
  deriving DecidableEq, Repr

def LineFault.message : LineFault → String
  | hostAfterPage => "'Host' must be declared before the first Page block"
  | secondHost => "Duplicate 'Host' definition"
  | emptyHost => "'Host' cannot be empty"
  | featuresAfterPage => "'Features:' must appear before the first Page block"
  | pageBeforeHost => "Page block found before 'Host' definition"
  | emptyPageName => "Page name cannot be empty"
  | strayLine line => "Invalid line format: " ++ String.ofList line
  | badFeature line => "Invalid feature format, expected '- <name>:': " ++ String.ofList line
  | secondFeature name => "Duplicate feature '" ++ name ++ "'"
  | straySetting line => "Feature setting outside of a feature block: " ++ String.ofList line
  | badPair kind text =>
    "Invalid " ++ kind.name ++ " format, expected '<name>: <value>': " ++ String.ofList text
  | badEnable value => "Invalid boolean for 'enable': " ++ Text.quoted (String.ofList value)
  | reservedKey key => "Feature context cannot redefine '" ++ String.ofList key ++ "'"
  | badPageLine line =>
    "Expected 'expected:' or 'action:' in page block: " ++ String.ofList line
  | badExpected line => "Invalid expected element format: " ++ String.ofList line
  | fieldsValue => "'fields:' must be followed by '- <name>: <value>' lines"
  | unknownProperty name => "Unknown action property '" ++ String.ofList name ++ "'"
  | secondProperty name => "Duplicate action property '" ++ String.ofList name ++ "'"
  | secondAction page => "Page '" ++ page ++ "' declares more than one action"
  | noAction page => "Page '" ++ page ++ "' has no action"
  | action fault => fault.message
  | noHost => "Missing 'Host' definition in test scenario"

end Walkthrough.Script
