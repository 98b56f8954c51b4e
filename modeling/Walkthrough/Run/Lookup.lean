import Walkthrough.Browser.Basic
import Walkthrough.Text.LetterCase

/-!
Finding the field that a name means. The look-ups are tried in order and the first that finds an
element decides; one that finds nothing passes the name on to the next. A failing browser call ends
the search as a failed interaction.
-/

namespace Walkthrough

/-- The name as it may stand in the attributes `name` and `id`: in lower case, without spaces. -/
def attributeKey (field : String) : String :=
  String.ofList ((Text.lower field).toList.filter (· ≠ ' '))

/-- The ways to find a field. -/
inductive Lookup
  /-- The element that a label with exactly this text is for. -/
  | labelFor
  | placeholderNameId
  /-- The field after a label that contains the text. -/
  | adjacentLabel
  | title
  | ariaLabel
  deriving DecidableEq, Repr

namespace Lookup

def name : Lookup → String
  | .labelFor => "label-for"
  | .placeholderNameId => "placeholder-name-id"
  | .adjacentLabel => "adjacent-label"
  | .title => "title"
  | .ariaLabel => "aria-label"

/-- All look-ups in the order in which they are tried. -/
def all : List Lookup := [.labelFor, .placeholderNameId, .adjacentLabel, .title, .ariaLabel]

def ofName? (name : String) : Option Lookup := all.find? (fun l => l.name == name)

/-- The fields whose placeholder is the name, or whose name or id is its key. -/
def attributeLocator (field : String) : Locator :=
  .anyOf [.byAttribute "placeholder" field inputTags false,
    .byAttribute "name" (attributeKey field) inputTags true,
    .byAttribute "id" (attributeKey field) inputTags true]

variable {π η : Type}

def run (b : Browser π η) (field : String) : Lookup → Act (Scene π) (Option η)
  | .labelFor => do
    match ← b.locate (.byLabel field true) with
    | none => return none
    | some label =>
      match ← b.readAttribute label "for" with
      | none | some "" => return none
      | some id => b.locate (.byId id)
  | .placeholderNameId => b.locate (attributeLocator field)
  | .adjacentLabel => b.locate (.afterLabel field inputTags)
  | .title => b.locate (.byAttribute "title" field [] false)
  | .ariaLabel => b.locate (.byAttribute "aria-label" field [] false)

end Lookup

/-- A browser with the look-ups that are used on it. -/
structure Resolver (π η : Type) where
  browser : Browser π η
  lookups : List Lookup := Lookup.all

namespace Resolver

variable {π η : Type}

/-- A resolver on a browser, which must be given; no look-ups stand for all of them. -/
def create (browser : Option (Browser π η)) (lookups : List Lookup) :
    Except Misuse (Resolver π η) :=
  match browser with
  | none => .error .noDriver
  | some browser => .ok ⟨browser, if lookups.isEmpty then Lookup.all else lookups⟩

/-- The first element that a locator finds. -/
def find (r : Resolver π η) (l : Locator) : Act (Scene π) (Option η) :=
  (r.browser.locate l).mapFault <|
    Fault.wrap fun text => "Lookup of " ++ l.kind ++ " failed: " ++ text

/-- One look-up, a failing browser call being its failure. -/
def tryLookup (r : Resolver π η) (field : String) (l : Lookup) : Act (Scene π) (Option η) :=
  (l.run r.browser field).mapFault <|
    Fault.wrap fun text => l.name ++ " lookup for field '" ++ field ++ "' failed: " ++ text

/-- The element that the first of the look-ups finds. -/
def firstOf (r : Resolver π η) (field : String) : List Lookup → Act (Scene π) η
  | [] => do
    Scene.say .info .lookup ("field '" ++ field ++ "' not found by any lookup")
    Act.fail (.fieldNotFound field)
  | l :: rest => do
    match ← r.tryLookup field l with
    | some element =>
      Scene.say .debug .lookup ("resolved field '" ++ field ++ "' using " ++ l.name ++ " lookup")
      return element
    | none =>
      Scene.say .debug .lookup ("field '" ++ field ++ "' not matched by " ++ l.name ++ " lookup")
      r.firstOf field rest

/-- The element of a field; the name must show something. -/
def resolve (r : Resolver π η) (field : Option String) : Act (Scene π) η :=
  match field with
  | none => Act.fail (.misuse .blankField)
  | some field =>
    if Text.isBlankText field then Act.fail (.misuse .blankField)
    else r.firstOf field r.lookups

/-- What the field of a name shows. -/
def valueOf (r : Resolver π η) (field : String) : Act (Scene π) String := do
  let element ← r.resolve (some field)
  (r.browser.readValue element).mapFault <|
    Fault.wrap fun text => "Reading value of '" ++ field ++ "' failed: " ++ text

end Resolver

end Walkthrough
