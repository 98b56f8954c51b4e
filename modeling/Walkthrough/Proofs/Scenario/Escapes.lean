import Walkthrough.Proofs.Json.Limits
import Walkthrough.Proofs.Scenario.Refusals
import Walkthrough.Proofs.Script.Consistency
import Walkthrough.Proofs.Yaml.Nodes

/-! What a scenario text that is not accepted ends with. It is a fault of the format that names its source,
but for the failures that escape the front-ends (`Escape`): a script has none, a JSON text those of the
limits it breaks, and a YAML text those of its conversions (`Yaml.Misfit`). -/

namespace Walkthrough

open Text

/-- The source that faults name: the one that is given, or else the format in angle brackets. -/
inductive Format.Names (format : Format) : Option String → String → Prop
  | given {name : String} (h : name ≠ "") : Names format (some name) name
  | empty : Names format (some "") ("<" ++ format.name ++ ">")
  | none : Names format none ("<" ++ format.name ++ ">")

namespace Scenario

/-- The failures that reading a text can end with and that are no faults of the format. -/
inductive Escape [StackRoom] : Format → List Char → Foreign → Prop
  | digits {text ds : List Char} (within : ds <:+: text) (digits : ∀ c ∈ ds, isDigit c = true)
    (long : Json.digitLimit < ds.length) :
    Escape .json text ⟨.value, Number.IntFault.tooManyText ds.length⟩
  | depth {text : List Char} {kind : String} (deep : StackRoom.json < Json.opened text) :
    Escape .json text
      ⟨.depth, "maximum recursion depth exceeded while decoding a JSON " ++ kind ++ " from a unicode string"⟩
  | conversion {text : List Char} {failure : Foreign} (misfit : Yaml.Misfit failure)
    (h : Yaml.read (points text) = .error (.conversion failure)) : Escape .yaml text failure
  | overlong {text : List Char} {d : Data} (h : Yaml.read (points text) = .ok d) (long : ¬d.Short) :
    Escape .yaml text ⟨.value, Number.overlongText⟩

/-- How reading a text may end: with a scenario, with a fault of the format that is at home in the source
of that name, or with a failure that escapes. -/
inductive Ends [StackRoom] (format : Format) (text : List Char) (name : String) : Except Fault Scenario → Prop
  | ok (s : Scenario) : Ends format text name (.ok s)
  | format (message : String) (line : Option Int) (path : Option String) :
    Ends format text name (.error (.format message ⟨line, path, some name⟩))
  | escape {failure : Foreign} (h : Escape format text failure) :
    Ends format text name (.error (.foreign failure))

variable {d : Data} {text : List Char} {name : String}

theorem names_sourceName (format : Format) (source : Option String) :
    format.Names source (sourceName format source) := by
  unfold sourceName
  split
  · exact .none
  · exact .empty
  · next _ h => exact .given h

/-- Faults of a value keep their form when they are given the name of the source. -/
theorem ends_ofData [StackRoom] {format : Format}
    (overlong : ¬d.Short → Escape format text ⟨.value, Number.overlongText⟩) :
    Ends format text name ((ofData d).mapError (Fault.withSource name)) := by
  rw [ofData]
  cases h : Document.scenarioOf d with
  | ok s => exact .ok s
  | error r =>
    rcases Document.format_or_overlong_of_refused h with ⟨message, path, hr⟩ | ⟨rfl, long⟩
    · show Ends format text name (.error (r.toFault.withSource name))
      rw [hr]
      exact .format message _ _
    · exact .escape (overlong long)

theorem ends_ofJson [StackRoom] (text : List Char) (name : String) :
    Ends .json text name ((ofJson text).mapError (Fault.withSource name)) := by
  unfold ofJson
  split
  · next fault h =>
    cases Json.breaks_of_read h with
    | malformed => exact .format _ _ _
    | digits within digits long => exact .escape (.digits within digits long)
    | deep deep => exact .escape (.depth deep)
  · next d h => exact ends_ofData fun long => absurd (Json.isJson_of_read h).short long

theorem ends_ofYaml [StackRoom] (text : List Char) (name : String) :
    Ends .yaml text name ((ofYaml text).mapError (Fault.withSource name)) := by
  unfold ofYaml
  split
  · next fault h =>
    cases fault with
    | badCharacter | problem => exact .format _ _ _
    | conversion failure => exact .escape (.conversion (Yaml.sound_read _ _ h) h)
  · next d h => exact ends_ofData fun long => .overlong h long

end Scenario

end Walkthrough
