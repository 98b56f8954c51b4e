import Walkthrough.Number.Read
import Walkthrough.Scenario.Basic
import Walkthrough.Text.Utf8

/-!
The document form of a scenario: an object with a host, features and pages, as JSON and YAML write
it. `Document.ofEntries` checks a value against the form and reports the first thing that is wrong
with the path that leads to it; `Document.toScenario` builds the actions. Properties that the form
does not name are left aside, and a collection that is absent or null is empty. All parts are looked
at even after a flaw, since an integer that cannot be written ends the check whatever else is wrong.
-/

namespace Walkthrough

/-- One step of a path into a document. -/
inductive PathStep
  | key (name : String)
  | index (n : Int)
  deriving DecidableEq, Repr

def PathStep.render : PathStep → String
  | .key name => "." ++ name
  | .index n => "[" ++ toString n ++ "]"

/-- A path as text, the root being a dollar sign. -/
def renderPath (path : List PathStep) : String := "$" ++ String.join (path.map PathStep.render)

/-- What can be wrong with a value of a document. -/
inductive SchemaFault
  | required
  | notText
  /-- Text with a lone surrogate, or bytes that are not UTF-8. -/
  | notUnicode
  | notTruth
  | notMap
  | notList
  | notObject (type : String)
  | empty
  | blank (what : String)
  | reserved (keys : List String)
  deriving DecidableEq, Repr

def SchemaFault.message : SchemaFault → String
  | required => "Field required"
  | notText => "Input should be a valid string"
  | notUnicode => "Input should be a valid string, unable to parse raw data as a unicode string"
  | notTruth => "Input should be a valid boolean"
  | notMap => "Input should be a valid dictionary"
  | notList => "Input should be a valid list"
  | notObject type => "Input should be a valid dictionary or instance of " ++ type
  | empty => "String should have at least 1 character"
  | blank what => "Value error, " ++ what ++ " cannot be blank"
  | reserved keys => "Value error, context cannot redefine " ++ Text.quotedList keys

/-- A fault at the end of a path. -/
structure Flaw where
  path : List PathStep
  cause : SchemaFault
  deriving DecidableEq, Repr

/-- Why a part of a document is not used. -/
inductive Objection
  | flaw (flaw : Flaw)
  /-- An integer that stands for a text has more digits than are written. -/
  | overlong
  deriving DecidableEq, Repr

/-- A result of looking at a part of a document. -/
abbrev Checked (α : Type) := Except Objection α

namespace Checked

variable {α β : Type}

/-- A fault of the value itself. -/
def fail (cause : SchemaFault) : Checked α := .error (.flaw ⟨[], cause⟩)

/-- The part as seen from the value that holds it. -/
def under (step : PathStep) : Checked α → Checked α
  | .ok a => .ok a
  | .error (.flaw flaw) => .error (.flaw { flaw with path := step :: flaw.path })
  | .error .overlong => .error .overlong

/-- Two parts, of which the second is looked at whatever the first comes to. The first flaw is
reported. -/
def both (a : Checked α) (b : Checked β) : Checked (α × β) :=
  match a, b with
  | .ok a, .ok b => .ok (a, b)
  | .error .overlong, _ | _, .error .overlong => .error .overlong
  | .error (.flaw f), _ | _, .error (.flaw f) => .error (.flaw f)

end Checked

namespace Document

open Checked

/-- A text or a number, which becomes its text. -/
def text : Data → Checked String
  | .text s => .ok s
  | .int n => if Number.isOverlong n then .error .overlong else .ok (toString n)
  | .float x => .ok x.text
  | .bytes bs => match Text.Utf8.decode bs with
    | .ok cs => .ok (Text.ofChars cs)
    | .error _ => fail .notUnicode
  | _ => fail .notText

/-- A text that shows something, without lone surrogates. -/
def visibleText (what : String) (d : Data) : Checked String := do
  let s ← text d
  if !Text.isWhole s then fail .notUnicode
  else if s.isEmpty then fail .empty
  else if Text.isBlankText s then fail (.blank what)
  else return s

def truth : Data → Checked Bool
  | .bool b => .ok b
  | _ => fail .notTruth

/-- The entries of an object of the form's type `type`. -/
def object (type : String) : Data → Checked (List (Data × Data))
  | .map entries => .ok entries
  | _ => fail (.notObject type)

variable {α : Type}

/-- A property that must be there. -/
def required (key : String) (decode : Data → Checked α) (entries : List (Data × Data)) :
    Checked α :=
  match Data.lookup key entries with
  | none => under (.key key) (fail .required)
  | some d => under (.key key) (decode d)

/-- A property that has a value when it is absent. -/
def withDefault (key : String) (default : α) (decode : Data → Checked α)
    (entries : List (Data × Data)) : Checked α :=
  match Data.lookup key entries with
  | none => .ok default
  | some d => under (.key key) (decode d)

/-- A collection, null standing for the empty one. -/
def nullable (empty : α) (decode : Data → Checked α) : Data → Checked α
  | .null => .ok empty
  | d => decode d

/-- A value that may be null. -/
def optional (decode : Data → Checked α) : Data → Checked (Option α)
  | .null => .ok none
  | d => (decode d).map some

/-- A text as a path shows it, three replacement characters standing for a surrogate. -/
def shownKey (s : String) : String :=
  Text.CodePoints.text <| (Text.points s.toList).flatMap fun n =>
    if Text.isSurrogate n then [0xFFFD, 0xFFFD, 0xFFFD] else [n]

/-- The step of a path that a key of a map makes. Small integers and truth values are written like
the index of a list. -/
def keyStep : Data → PathStep
  | .text s => .key (shownKey s)
  | .int n =>
    if Int64.minValue.toInt ≤ n ∧ n ≤ Int64.maxValue.toInt then .index n else .key (toString n)
  | .bool b => .index (if b then 1 else 0)
  | d => .key d.display

/-- The entries of a map, their keys as texts. -/
def entriesOf (decode : Data → Checked α) : List (Data × Data) → Checked (List (String × α))
  | [] => .ok []
  | (k, v) :: rest => do
    let name := under (keyStep k) (under (.key "[key]") (text k))
    let entry := both name (under (keyStep k) (decode v))
    let (entry, entries) ← both entry (entriesOf decode rest)
    return entry :: entries

/-- A map; keys with one text are one key. -/
def mapOf (decode : Data → Checked α) : Data → Checked (List (String × α))
  | .map entries => (entriesOf decode entries).map Assoc.ofPairs
  | _ => fail .notMap

/-- The items of a list from index `n` on. -/
def itemsFrom (decode : Data → Checked α) (n : Nat) : List Data → Checked (List α)
  | [] => .ok []
  | d :: rest => do
    let (item, items) ← both (under (.index n) (decode d)) (itemsFrom decode (n + 1) rest)
    return item :: items

def listOf (decode : Data → Checked α) : Data → Checked (List α)
  | .list items | .group items => itemsFrom decode 0 items
  | _ => fail .notList

def texts : Data → Checked (List (String × String)) := mapOf text

/-- The context of a feature, without the keys that are the feature's own. -/
def context (d : Data) : Checked (List (String × String)) := do
  let entries ← nullable [] texts d
  match reservedKeys.filter (Assoc.contains · entries) with
  | [] => return entries
  | keys => fail (.reserved keys)

structure FeatureEntry where
  enabled : Bool
  context : List (String × String)
  deriving DecidableEq, Repr

def feature (d : Data) : Checked FeatureEntry := do
  let entries ← object "FeatureDocument" d
  let (enabled, context) ← both (required "enable" truth entries)
    (withDefault "context" [] context entries)
  return ⟨enabled, context⟩

structure ExpectedEntry where
  target : String
  value : String
  deriving DecidableEq, Repr

def expected (d : Data) : Checked ExpectedEntry := do
  let entries ← object "ExpectedDocument" d
  let (target, value) ← both (required "target" (visibleText "target") entries)
    (required "value" text entries)
  return ⟨target, value⟩

structure ActionEntry where
  type : String
  target : Option String
  targetField : Option String
  value : Option String
  fields : Option (List (String × String))
  deriving DecidableEq, Repr

def action (d : Data) : Checked ActionEntry := do
  let entries ← object "ActionDocument" d
  let open? := fun (key : String) => withDefault key none (optional text) entries
  let (type, target, targetField, value, fields) ←
    both (required "actionType" text entries) <|
    both (open? "target") <|
    both (open? "targetField") <|
    both (open? "value") <|
    withDefault "fields" none (optional texts) entries
  return ⟨type, target, targetField, value, fields⟩

/-- The entries that are there, for building the action. -/
def ActionEntry.entries (a : ActionEntry) : List (Data × Data) :=
  a.target.toList.map (fun s => (.text "target", .text s)) ++
  a.targetField.toList.map (fun s => (.text "targetField", .text s)) ++
  a.value.toList.map (fun s => (.text "value", .text s)) ++
  a.fields.toList.map (fun es => (.text "fields", textEntries es))

structure PageEntry where
  name : String
  expected : List ExpectedEntry
  action : ActionEntry
  deriving DecidableEq, Repr

def page (d : Data) : Checked PageEntry := do
  let entries ← object "PageDocument" d
  let (name, expected, action) ←
    both (required "name" (visibleText "page name") entries) <|
    both (withDefault "expected" [] (nullable [] (listOf expected)) entries) <|
    required "action" action entries
  return ⟨name, expected, action⟩

end Document

/-- A value of the document form. -/
structure Document where
  host : String
  features : List (String × Document.FeatureEntry)
  pages : List Document.PageEntry
  deriving DecidableEq, Repr

namespace Document

open Checked

/-- The document with the given entries, or the first flaw in the order of the form's properties. -/
def ofEntries (entries : List (Data × Data)) : Checked Document := do
  let (host, features, pages) ←
    both (required "host" (visibleText "host") entries) <|
    both (withDefault "features" [] (nullable [] (mapOf feature)) entries) <|
    withDefault "pages" [] (nullable [] (listOf page)) entries
  return ⟨host, features, pages⟩

/-- Why a value gives no scenario. -/
inductive Refusal
  | notObject
  | schema (flaw : Flaw)
  /-- An integer that stands for a text has more digits than are written. -/
  | overlong
  /-- The action of a page lacks what its type asks for. -/
  | action (page : Nat) (cause : ActionFault)
  /-- A part is refused by the scenario it would belong to. -/
  | misuse (cause : Misuse)
  deriving DecidableEq, Repr

/-- The path to the fault. -/
def Refusal.path : Refusal → List PathStep
  | .notObject | .overlong | .misuse _ => []
  | .schema flaw => flaw.path
  | .action n _ => [.key "pages", .index n, .key "action"]

def Refusal.message : Refusal → String
  | .notObject => "Scenario document must be an object"
  | .schema flaw => flaw.cause.message
  | .overlong => Number.overlongText
  | .action _ cause => cause.message
  | .misuse cause => cause.message

def Refusal.toFault : Refusal → Fault
  | .misuse cause => .misuse cause
  | .overlong => .foreign ⟨.value, Number.overlongText⟩
  | refusal => .format refusal.message { path := some (renderPath refusal.path) }

variable {α : Type}

/-- A part that a scenario accepts or refuses. -/
def accept : Except Misuse α → Except Refusal α
  | .ok a => .ok a
  | .error cause => .error (.misuse cause)

def toFeatures : List (String × FeatureEntry) → Except Refusal (List (String × Feature))
  | [] => .ok []
  | (name, f) :: rest => do
    let feature ← accept (Feature.create name f.enabled f.context)
    return (name, feature) :: (← toFeatures rest)

def toExpected : List ExpectedEntry → Except Refusal (List Expected)
  | [] => .ok []
  | e :: rest => do
    let expected ← accept (Expected.create (some e.target) (some e.value))
    return expected :: (← toExpected rest)

/-- The pages from number `n` on. -/
def toPages (n : Nat) : List PageEntry → Except Refusal (List Page)
  | [] => .ok []
  | p :: rest =>
    match Action.build (.text p.action.type) p.action.entries with
    | .error cause => .error (.action n cause)
    | .ok action => do
      let expected ← toExpected p.expected
      let page ← accept (Page.create (some p.name) (some action) expected)
      return page :: (← toPages (n + 1) rest)

def toScenario (d : Document) : Except Refusal Scenario := do
  let features ← toFeatures d.features
  let pages ← toPages 0 d.pages
  accept (Scenario.create (some d.host) features pages)

/-- The scenario that a value describes. -/
def scenarioOf : Data → Except Refusal Scenario
  | .map entries =>
    match ofEntries entries with
    | .error (.flaw flaw) => .error (.schema flaw)
    | .error .overlong => .error .overlong
    | .ok d => d.toScenario
  | _ => .error .notObject

end Document

end Walkthrough
