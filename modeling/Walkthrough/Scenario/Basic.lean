import Walkthrough.Scenario.Action

/-!
Scenarios: a host, the feature flags to apply first, and the pages in order, each with the values it
expects and the one action it performs. The `create` functions check what a part must satisfy.
-/

namespace Walkthrough

/-- Keys that a feature's context may not use, in alphabetical order. -/
def reservedKeys : List String := ["enable", "enabled", "name"]

structure Feature where
  name : String
  enabled : Bool := false
  context : List (String × String) := []
  deriving DecidableEq, Repr

def Feature.create (name : String) (enabled : Bool) (context : List (String × String)) :
    Except Misuse Feature :=
  match reservedKeys.filter (Assoc.contains · context) with
  | [] => .ok ⟨name, enabled, context⟩
  | keys => .error (.reservedContext name keys)

/-- The same feature, contexts compared without their order. -/
def Feature.same (a b : Feature) : Bool :=
  a.name == b.name && a.enabled == b.enabled && Assoc.sameEntries a.context b.context

/-- A field and the value it must show; an empty value asks for a blank field. -/
structure Expected where
  target : String
  value : String
  deriving DecidableEq, Repr

def Expected.create (target value : Option String) : Except Misuse Expected :=
  match target with
  | none => .error .blankTarget
  | some target =>
    if Text.isBlankText target then .error .blankTarget
    else match value with
      | none => .error (.noExpectedValue target)
      | some value => .ok ⟨target, value⟩

structure Page where
  name : String
  action : Action
  expected : List Expected := []
  deriving DecidableEq, Repr

def Page.create (name : Option String) (action : Option Action) (expected : List Expected) :
    Except Misuse Page :=
  match name with
  | none => .error .blankPageName
  | some name =>
    if Text.isBlankText name then .error .blankPageName
    else match action with
      | none => .error (.noAction name)
      | some action => .ok ⟨name, action, expected⟩

def Page.same (a b : Page) : Bool :=
  a.name == b.name && a.action.same b.action && a.expected == b.expected

structure Scenario where
  host : String
  features : List (String × Feature) := []
  pages : List Page := []
  deriving DecidableEq, Repr

/-- A scenario with a host; every feature stands under its own name. -/
def Scenario.create (host : Option String) (features : List (String × Feature))
    (pages : List Page) : Except Misuse Scenario :=
  match host with
  | none => .error .blankHost
  | some host =>
    if Text.isBlankText host then .error .blankHost
    else match features.find? (fun e => e.1 ≠ e.2.name) with
      | some (key, feature) => .error (.featureKey key feature.name)
      | none => .ok ⟨host, features, pages⟩

/-- The same scenario: maps are compared without their order, lists with it. -/
def Scenario.same (a b : Scenario) : Bool :=
  a.host == b.host &&
  a.features.length == b.features.length &&
  a.features.all (fun e => match Assoc.get? e.1 b.features with
    | some f => e.2.same f
    | none => false) &&
  a.pages.length == b.pages.length && (a.pages.zip b.pages).all (fun p => p.1.same p.2)

/-- Texts under text keys. -/
def textEntries (es : List (String × String)) : Data :=
  .map (es.map fun (k, v) => (.text k, .text v))

/-- A text, or null where it was left open. -/
def openText : Option String → Data
  | some s => .text s
  | none => .null

def Feature.summary (f : Feature) : Data :=
  .map [(.text "enable", .bool f.enabled), (.text "context", textEntries f.context)]

def Expected.summary (e : Expected) : Data :=
  .map [(.text "target", .text e.target), (.text "value", .text e.value)]

def Action.summary (a : Action) : Data :=
  .map ((.text "actionType", .text a.type.name) :: match a with
    | .click target => [(.text "target", openText target)]
    | .enter field value =>
      [(.text "targetField", openText field), (.text "value", openText value)]
    | .submit fields =>
      [(.text "fields", .map (fields.map fun (k, v) => (.text k, openText v)))])

def Page.summary (p : Page) : Data :=
  .map [(.text "name", .text p.name), (.text "expected", .list (p.expected.map Expected.summary)),
    (.text "action", p.action.summary)]

/-- The scenario as a document of the JSON form. -/
def Scenario.summary (s : Scenario) : Data :=
  .map [(.text "host", .text s.host),
    (.text "features", .map (s.features.map fun (name, f) => (.text name, f.summary))),
    (.text "pages", .list (s.pages.map Page.summary))]

end Walkthrough
