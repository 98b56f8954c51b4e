import Walkthrough.Text.Quoted

/-!
What can go wrong. A `Fault` is one of the program's own faults, each with the data that tells what
happened, or a failure of something else (`Foreign`): the browser, the file system, a value that a
caller passed. `Fault.message` is the text shown for it and `Fault.typeName` the name of its kind.
-/

namespace Walkthrough

/-- Kinds of failures that are not the program's own. -/
inductive ForeignKind
  | runtime
  | value
  | key
  | type
  | os
  | fileExists
  | fileNotFound
  | notADirectory
  | isADirectory
  | permission
  | assertion
  | notImplemented
  | overflow
  | index
  | attribute
  /-- A text that has no bytes. -/
  | encoding
  /-- Values are nested too deep. -/
  | depth
  /-- An address that leads nowhere. -/
  | address
  /-- A reply that is no value. -/
  | reply
  /-- A call that the browser refused. -/
  | browser
  /-- A call that the browser did not finish in time. -/
  | browserTimeout
  deriving DecidableEq, Repr

def ForeignKind.name : ForeignKind → String
  | .runtime => "RuntimeError"
  | .value => "ValueError"
  | .key => "KeyError"
  | .type => "TypeError"
  | .os => "OSError"
  | .fileExists => "FileExistsError"
  | .fileNotFound => "FileNotFoundError"
  | .notADirectory => "NotADirectoryError"
  | .isADirectory => "IsADirectoryError"
  | .permission => "PermissionError"
  | .assertion => "AssertionError"
  | .notImplemented => "NotImplementedError"
  | .overflow => "OverflowError"
  | .index => "IndexError"
  | .attribute => "AttributeError"
  | .encoding => "UnicodeEncodeError"
  | .depth => "RecursionError"
  | .address => "InvalidURL"
  | .reply => "JSONDecodeError"
  | .browser => "Error"
  | .browserTimeout => "TimeoutError"

structure Foreign where
  kind : ForeignKind
  message : String
  deriving DecidableEq, Repr

/-- Failures of the system: of files and directories above all. -/
def ForeignKind.isSystem : ForeignKind → Bool
  | .os | .fileExists | .fileNotFound | .notADirectory | .isADirectory | .permission => true
  | _ => false

/-- A look-up of a key that is not there; the key is shown quoted. -/
def Foreign.missingKey (key : String) : Foreign := ⟨.key, Text.quoted key⟩

/-- Where in a scenario source a fault is: a line, or the path of a document node, and the name of
the source. -/
structure Place where
  line : Option Int := none
  path : Option String := none
  source : Option String := none
  deriving DecidableEq, Repr

/-- What a caller did wrong. -/
inductive Misuse
  | blankHost
  | featureKey (key name : String)
  | reservedContext (feature : String) (keys : List String)
  | blankTarget
  | noExpectedValue (target : String)
  | blankPageName
  | noAction (page : String)
  | blankField
  | enterWithoutTarget
  | enterWithoutValue (field : String)
  | noDriver
  | unknownFormat (name : String)
  deriving DecidableEq, Repr

def Misuse.message : Misuse → String
  | .blankHost => "Scenario host cannot be empty"
  | .featureKey key name =>
    "Feature key '" ++ key ++ "' does not match feature name '" ++ name ++ "'"
  | .reservedContext feature keys =>
    "Feature '" ++ feature ++ "' context cannot redefine " ++ Text.quotedList keys
  | .blankTarget => "Expected element target cannot be empty"
  | .noExpectedValue target => "Expected element '" ++ target ++ "' has no value"
  | .blankPageName => "Page name cannot be empty"
  | .noAction page => "Page '" ++ page ++ "' has no action"
  | .blankField => "Field name cannot be empty"
  | .enterWithoutTarget => "Enter action requires a target field"
  | .enterWithoutValue field => "Enter action on '" ++ field ++ "' requires a value"
  | .noDriver => "ElementResolver requires a driver"
  | .unknownFormat name =>
    "Unknown scenario format '" ++ name ++ "'. Expected one of ['dsl', 'json', 'yaml']"

inductive Fault
  /-- A malformed scenario source. -/
  | format (message : String) (place : Place)
  /-- A scenario source that could not be read. -/
  | source (message : String) (path : Option String)
  | fieldNotFound (field : String)
  | mismatch (target expected : String) (actual : Option String)
  | registry (message : String)
  | noStrategy (type : String) (available : Option (List String))
  /-- A failed browser call, with the failure that was its cause. -/
  | interaction (message : String) (cause : Option Foreign)
  /-- A wait that ended without what was waited for. -/
  | timeout (message : String) (milliseconds : Int) (cause : Option Foreign)
  /-- Any other failure of the program's own. -/
  | general (message : String)
  | foreign (failure : Foreign)
  deriving DecidableEq, Repr

/-- The place as it stands before a message. -/
def Place.heading (p : Place) : String :=
  let name := match p.source with
    | none | some "" => "<scenario>"
    | some s => s
  match p.line, p.path with
  | some n, _ => name ++ ":" ++ toString n ++ ": "
  | none, none | none, some "" => name ++ ": "
  | none, some path => name ++ " at " ++ path ++ ": "

namespace Fault

def message : Fault → String
  | format m place => place.heading ++ m
  | source m _ => m
  | fieldNotFound field => "Field not found: '" ++ field ++ "'"
  | mismatch target expected actual =>
    "Expected field '" ++ target ++ "' to be '" ++ expected ++ "' but found '" ++
      actual.getD "None" ++ "'"
  | registry m => m
  | noStrategy type available =>
    "No strategy registered for action type: " ++ type ++
      (match available with
        | none => ""
        | some names => ". Registered types: " ++ Text.quotedList names)
  | interaction m _ => m
  | timeout m _ _ => m
  | general m => m
  | foreign f => f.message

def typeName : Fault → String
  | format .. => "ScenarioFormatError"
  | source .. => "ScenarioSourceError"
  | fieldNotFound _ => "FieldNotFoundError"
  | mismatch .. => "AssertionMismatchError"
  | registry _ => "RegistryConfigurationError"
  | noStrategy .. => "NoStrategyError"
  | interaction .. => "InteractionError"
  | timeout .. => "InteractionTimeoutError"
  | general _ => "SmartUIError"
  | foreign f => f.kind.name

/-- The program's own faults. -/
def isOwn : Fault → Bool
  | foreign _ => false
  | _ => true

/-- A mismatch is a failed test, as an assertion that does not hold is. -/
def isAssertion : Fault → Bool
  | mismatch .. => true
  | foreign f => f.kind == .assertion
  | _ => false

/-- Failed browser calls, late ones included. -/
def isInteraction : Fault → Bool
  | interaction .. | timeout .. => true
  | _ => false

/-- Failures of the system. -/
def isSystem : Fault → Bool
  | foreign f => f.kind.isSystem
  | _ => false

def misuse (m : Misuse) : Fault := foreign ⟨.value, m.message⟩

/-- A failure that is not the program's own becomes the cause of a failed interaction described by
`describe`; the program's own faults stay as they are. -/
def wrap (describe : String → String) : Fault → Fault
  | foreign f => interaction (describe f.message) (some f)
  | fault => fault

/-- The fault with the name of its source filled in. -/
def withSource (name : String) : Fault → Fault
  | format m place => format m { place with source := some name }
  | fault => fault

end Fault

end Walkthrough
