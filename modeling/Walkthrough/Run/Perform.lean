import Walkthrough.Run.Lookup
import Walkthrough.Scenario.Basic

/-!
Performing actions: a click, entering a value, filling and submitting a form. A hook is called once
for an action, right before the first touch of an element. Submitting is best effort: what fails is
a warning.
-/

namespace Walkthrough

/-- What an action came to; the warnings tell what failed without ending it. -/
structure Outcome where
  type : ActionType
  warnings : List String := []
  deriving DecidableEq, Repr

def Outcome.clean (o : Outcome) : Bool := o.warnings.isEmpty

/-- What is done right before the first touch. -/
abbrev Hook (π η : Type) := Option (η → Act (Scene π) Unit)

/-- Options of entering a value. -/
structure EnterOptions where
  /-- How long to wait for the field; nothing and zero skip the wait. -/
  waitMilliseconds : Option Int := none
  pressEnter : Bool := false
  scrollIntoView : Bool := false
  deriving DecidableEq, Repr

namespace Perform

variable {π η : Type}

/-- One touch; if it fails with a failure of something else, that is a failed interaction. -/
def interact (description : String) (step : Act (Scene π) Unit) : Act (Scene π) Unit :=
  step.mapFault <| Fault.wrap fun text => "Failed to " ++ description ++ ": " ++ text

/-- Calls the hook, unless it was called before. -/
def callHook (hook : Hook π η) (called : Bool) (element : η) : Act (Scene π) Unit :=
  match hook, called with
  | some hook, false => hook element
  | _, _ => pure ()

/-- A text as messages show it. -/
def shown (text : Option String) : String := text.getD "None"

/-- The control with a text, or else the field of that name. -/
def clickTarget (r : Resolver π η) (target : Option String) : Act (Scene π) η := do
  match ← r.find (.clickable target) with
  | some element => return element
  | none =>
    Scene.say .debug .perform ("no clickable control with text '" ++ shown target ++
      "', falling back to field resolution")
    r.resolve target

def click (r : Resolver π η) (hook : Hook π η) (target : Option String) :
    Act (Scene π) Outcome := do
  let element ← clickTarget r target
  callHook hook false element
  interact ("click '" ++ shown target ++ "'") (r.browser.click element)
  Scene.say .info .perform ("clicked '" ++ shown target ++ "'")
  return ⟨.click, []⟩

/-- Waits for a field and scrolls to it, as far as the options ask for it. -/
def prepare (r : Resolver π η) (options : EnterOptions) (field : String) (element : η) :
    Act (Scene π) Unit := do
  match options.waitMilliseconds with
  | none | some 0 => pure ()
  | some ms => interact ("wait for '" ++ field ++ "'") (r.browser.wait element ms)
  if options.scrollIntoView then
    interact ("scroll '" ++ field ++ "' into view") (r.browser.scroll element)

/-- Replaces what a field shows. -/
def fill (r : Resolver π η) (field : String) (value : Option String) (element : η) :
    Act (Scene π) Unit := do
  interact ("clear '" ++ field ++ "'") (r.browser.clear element)
  interact ("type into '" ++ field ++ "'") (r.browser.type element value)

def enter (options : EnterOptions) (r : Resolver π η) (hook : Hook π η)
    (field value : Option String) : Act (Scene π) Outcome :=
  match field, value with
  | none, _ | some "", _ => Act.fail (.misuse .enterWithoutTarget)
  | some field, none => Act.fail (.misuse (.enterWithoutValue field))
  | some field, some value => do
    let element ← r.resolve (some field)
    prepare r options field element
    callHook hook false element
    fill r field (some value) element
    if options.pressEnter then
      interact ("press Enter in '" ++ field ++ "'") (r.browser.press element "Enter")
    Scene.say .info .perform ("entered " ++ toString (Text.length value) ++ " characters into '" ++ field ++
      "'")
    return ⟨.enter, []⟩

/-- How far a submission is. -/
structure Progress (η : Type) where
  /-- Whether the hook was called. -/
  hooked : Bool := false
  warnings : List String := []
  /-- The element of the field that was filled last. -/
  last : Option η := none

/-- Notes a warning. -/
def warn (p : Progress η) (text : String) : Act (Scene π) (Progress η) := do
  Scene.say .warning .perform text
  return { p with warnings := p.warnings ++ [text] }

/-- Fills one field. A fault of the program's own skips it with a warning. -/
def fillField (r : Resolver π η) (hook : Hook π η) (p : Progress η) (name : String)
    (value : Option String) : Act (Scene π) (Progress η) := do
  let skip := fun (p : Progress η) (fault : Fault) =>
    if fault.isOwn then warn p ("Skipped field '" ++ name ++ "': " ++ fault.message)
    else Act.fail fault
  match ← (r.resolve (some name)).attempt with
  | .error fault => skip p fault
  | .ok element =>
    let touched := do
      callHook hook p.hooked element
      fill r name value element
    match ← touched.attempt with
    | .error fault => skip { p with hooked := true } fault
    | .ok () => return { p with hooked := true, last := some element }

def fillFields (r : Resolver π η) (hook : Hook π η) (p : Progress η) :
    List (String × Option String) → Act (Scene π) (Progress η)
  | [] => return p
  | (name, value) :: rest => do
    let p ← fillField r hook p name value
    fillFields r hook p rest

/-- Goes on after a failed interaction, and fails with any other fault. -/
def tolerate (p : Progress η) (describe : String → String) (fault : Fault) :
    Act (Scene π) (Progress η) :=
  if fault.isInteraction then warn p (describe fault.message) else Act.fail fault

/-- Clicks the submit control of the page. -/
def clickSubmit (r : Resolver π η) (hook : Hook π η) (p : Progress η) :
    Act (Scene π) (Progress η) := do
  match ← (r.find .submitControl).attempt with
  | .error fault => tolerate p (fun text => "Submit control lookup failed: " ++ text) fault
  | .ok none => warn p "No submit control found on page"
  | .ok (some control) =>
    let touched := do
      callHook hook p.hooked control
      interact "click submit control" (r.browser.click control)
    match ← touched.attempt with
    | .error fault => tolerate p (fun text => "Submit control click failed: " ++ text) fault
    | .ok () =>
      Scene.say .info .perform "clicked submit control"
      return p

/-- Submits the form of the field that was filled last, or else clicks the submit control. -/
def sendForm (r : Resolver π η) (hook : Hook π η) (count : Nat) (p : Progress η) :
    Act (Scene π) (Progress η) := do
  match p.last with
  | none => clickSubmit r hook p
  | some element =>
    match ← (interact "submit form" (r.browser.submit element)).attempt with
    | .ok () =>
      Scene.say .info .perform ("submitted form with " ++ toString count ++ " field(s)")
      return p
    | .error fault =>
      let p ← tolerate p (fun text => "Form submit failed, trying a submit control: " ++ text) fault
      clickSubmit r hook p

def submit (r : Resolver π η) (hook : Hook π η) (fields : List (String × Option String)) :
    Act (Scene π) Outcome := do
  let p ← fillFields r hook {} fields
  let p ← sendForm r hook fields.length p
  return ⟨.submit, p.warnings⟩

end Perform

end Walkthrough
