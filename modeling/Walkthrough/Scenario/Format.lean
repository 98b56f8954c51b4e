import Walkthrough.Json.Reader
import Walkthrough.Scenario.Document
import Walkthrough.Script.Machine
import Walkthrough.Yaml.Document

/-!
The three forms of a scenario text, and reading a scenario in any of them. A malformed text is
reported with the name of its source.
-/

namespace Walkthrough

inductive Format
  | script
  | json
  | yaml
  deriving DecidableEq, Repr

def Format.name : Format → String
  | .script => "dsl"
  | .json => "json"
  | .yaml => "yaml"

def Format.all : List Format := [.script, .json, .yaml]

def Format.ofName? (name : String) : Option Format := Format.all.find? (fun f => f.name == name)

/-- The source named in faults when a text comes from nowhere. -/
def Format.anonymous (f : Format) : String := "<" ++ f.name ++ ">"

namespace Json

/-- A fault of a JSON text as a fault of the scenario. -/
def Fault.toScenarioFault (text : List Char) : Fault → Walkthrough.Fault
  | .malformed problem rest =>
    let (line, column) := position text rest
    .format ("Invalid JSON: " ++ problem.message ++ " (column " ++ toString column ++ ")")
      { line := some line }
  | .tooManyDigits count => .foreign ⟨.value, Number.IntFault.tooManyText count⟩
  | .tooDeep isObject =>
    .foreign ⟨.depth, "maximum recursion depth exceeded while decoding a JSON " ++
      (if isObject then "object" else "array") ++ " from a unicode string"⟩

end Json

namespace Yaml

/-- A fault of a YAML text as a fault of the scenario. -/
def Fault.toScenarioFault : Fault → Walkthrough.Fault
  | .badCharacter n position => .format ("Invalid YAML: " ++ badCharacterText n position) {}
  | .problem cause line =>
    .format ("Invalid YAML: " ++ cause.message) { line := some (line + 1 : Nat) }
  | .conversion failure => .foreign failure

end Yaml

namespace Scenario

/-- The scenario that a value describes. -/
def ofData (d : Data) : Except Fault Scenario :=
  (Document.scenarioOf d).mapError Document.Refusal.toFault

def ofJson [StackRoom] (text : List Char) : Except Fault Scenario :=
  match Json.read text with
  | .error fault => .error (fault.toScenarioFault text)
  | .ok d => ofData d

def ofYaml [StackRoom] (text : List Char) : Except Fault Scenario :=
  match Yaml.read (Text.points text) with
  | .error fault => .error fault.toScenarioFault
  | .ok d => ofData d

/-- The source that faults name: the given one, unless it is empty. -/
def sourceName (format : Format) : Option String → String
  | none | some "" => format.anonymous
  | some name => name

/-- The scenario that a text describes. -/
def ofText [StackRoom] (format : Format) (text : String) (source : Option String) :
    Except Fault Scenario :=
  let name := sourceName format source
  match format with
  | .script => (Script.parse text.toList).mapError (Script.Stop.toFault name)
  | .json => (ofJson text.toList).mapError (Fault.withSource name)
  | .yaml => (ofYaml text.toList).mapError (Fault.withSource name)

/-- The scenario that a text in a format of the given name describes. -/
def ofNamedText [StackRoom] (format text : String) (source : Option String) :
    Except Fault Scenario :=
  match Format.ofName? format with
  | some format => ofText format text source
  | none => .error (.misuse (.unknownFormat format))

end Scenario

end Walkthrough
