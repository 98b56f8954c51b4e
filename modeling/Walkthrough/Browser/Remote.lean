import Walkthrough.Browser.Basic

/-!
A browser that is driven by remote calls. Elements are handles: a selector, and which of its matches
is meant; every call asks the page anew. The page here answers from what is given for each selector,
can be made to fail, and keeps a journal of the calls it got.
-/

namespace Walkthrough

/-- What a call is made on. -/
inductive RemoteTarget
  | page
  /-- All matches of a selector. -/
  | every (selector : String)
  | first (selector : String)
  | nth (selector : String) (index : Nat)
  deriving DecidableEq, Repr

/-- The selector of a target, if it has one. -/
def RemoteTarget.selector? : RemoteTarget → Option String
  | page => none
  | every s | first s | nth s _ => some s

inductive RemoteCall
  /-- Opens an address and waits for the document. -/
  | goto (url : String) (timeout : Int)
  /-- Takes a picture of the whole page. -/
  | screenshot (path : String)
  | content
  | count
  | getAttribute (name : String)
  | innerText
  | inputValue
  | tagName
  /-- Submits the form that an element belongs to. -/
  | submitForm
  | click
  /-- Waits until a click would be possible. -/
  | tryClick (timeout : Int)
  | clear
  | typeKeys (text : String)
  | press (key : String)
  | scroll
  | awaitVisible (timeout : Int)
  deriving DecidableEq, Repr

/-- A call as it is named in requests. -/
def RemoteCall.name : RemoteCall → String
  | goto .. => "goto"
  | screenshot _ => "screenshot"
  | content => "content"
  | count => "count"
  | getAttribute _ => "get_attribute"
  | innerText => "inner_text"
  | inputValue => "input_value"
  | tagName => "tag_name"
  | submitForm => "submit_form"
  | click => "click"
  | tryClick _ => "click_trial"
  | clear => "clear"
  | typeKeys _ => "press_sequentially"
  | press _ => "press"
  | scroll => "scroll_into_view_if_needed"
  | awaitVisible _ => "wait_for"

/-- What the page answers for a selector. -/
structure RemoteMatch where
  count : Nat := 1
  tag : String := "input"
  value : String := ""
  text : String := ""
  attributes : List (String × Option String) := []
  failures : List (String × Fault) := []
  deriving Repr

structure RemotePage where
  url : String := "about:blank"
  html : String := ""
  failures : List (String × Fault) := []
  answers : List (String × RemoteMatch) := []
  journal : List (RemoteTarget × RemoteCall) := []

namespace RemotePage

/-- What is at a selector; nothing matches one that is not known. -/
def at? (p : RemotePage) (selector : String) : RemoteMatch :=
  (Assoc.get? selector p.answers).getD { count := 0 }

def failuresOf (p : RemotePage) (target : RemoteTarget) : List (String × Fault) :=
  match target.selector? with
  | none => p.failures
  | some selector => (p.at? selector).failures

/-- Makes a call: it is in the journal even if it fails. -/
def call (target : RemoteTarget) (c : RemoteCall) : Act (Scene RemotePage) Unit :=
  Scene.onPage fun p =>
    let p := { p with journal := p.journal ++ [(target, c)] }
    match Assoc.get? c.name (p.failuresOf target) with
    | some fault => (.error fault, p)
    | none => (.ok (), p)

/-- Asks for what a selector's match says. -/
def ask {α : Type} (target : RemoteTarget) (c : RemoteCall) (answer : RemoteMatch → α) :
    Act (Scene RemotePage) α := do
  call target c
  let s ← Act.get
  return answer (s.page.at? (target.selector?.getD ""))

end RemotePage

namespace Remote

open RemotePage

/-- Tags of the elements that have a value of their own. -/
def valueTags : List String := ["input", "textarea", "select"]

/-- A failed browser call becomes the cause of a failed interaction, a late one that of a timeout if
there is one to report; other faults stay what they are. -/
def explain (late : Option (String × Int)) (failed : String → String) : Fault → Fault
  | .foreign f =>
    match f.kind, late with
    | .browserTimeout, some (text, milliseconds) => .timeout text milliseconds (some f)
    | .browserTimeout, none | .browser, _ => .interaction (failed f.message) (some f)
    | _, _ => .foreign f
  | fault => fault

def navigate (timeout : Int) (url : String) : Act (Scene RemotePage) Unit := do
  Scene.say .debug .browser ("navigating to " ++ url)
  (call .page (.goto url timeout)).mapFault <|
    explain (some ("Navigation to " ++ url ++ " timed out", timeout)) fun text =>
      "Navigation to " ++ url ++ " failed: " ++ text
  Scene.onPage fun p => (.ok (), { p with url := url })

/-- The selector of a locator and the number of its matches. -/
def count (l : Locator) : Act (Scene RemotePage) (String × Nat) := do
  let query ← Act.lift (l.xpath.mapError Fault.foreign)
  let selector := "xpath=" ++ query
  let n ← (ask (.every selector) .count RemoteMatch.count).mapFault <|
    explain none fun text => "Query " ++ query ++ " failed: " ++ text
  return (selector, n)

def locate (l : Locator) : Act (Scene RemotePage) (Option RemoteTarget) := do
  let (selector, n) ← count l
  return if n = 0 then none else some (.first selector)

/-- All matches of a locator. -/
def locateAll (l : Locator) : Act (Scene RemotePage) (List RemoteTarget) := do
  let (selector, n) ← count l
  return (List.range n).map (.nth selector)

def readAttribute (e : RemoteTarget) (name : String) : Act (Scene RemotePage) (Option String) :=
  ask e (.getAttribute name) fun m => (Assoc.get? name m.attributes).join

def readText (e : RemoteTarget) : Act (Scene RemotePage) String :=
  ask e .innerText RemoteMatch.text

def readValue (e : RemoteTarget) : Act (Scene RemotePage) String := do
  let tag ← ask e .tagName RemoteMatch.tag
  if valueTags.contains tag then ask e .inputValue RemoteMatch.value
  else valueOrText readAttribute readText e

/-- Types a text, if there is any. -/
def type (e : RemoteTarget) (text : Option String) : Act (Scene RemotePage) Unit :=
  match text with
  | none | some "" => pure ()
  | some text => call e (.typeKeys text)

/-- Waits until an element is visible, and then until it can be clicked. -/
def wait (e : RemoteTarget) (milliseconds : Int) : Act (Scene RemotePage) Unit := do
  let late := fun (state : String) =>
    some ("Element did not become " ++ state ++ " within " ++ toString milliseconds ++ "ms",
      milliseconds)
  let failed := fun (text : String) => "Waiting for element failed: " ++ text
  (call e (.awaitVisible milliseconds)).mapFault (explain (late "visible") failed)
  (call e (.tryClick milliseconds)).mapFault (explain (late "interactable") failed)

end Remote

open Remote RemotePage

/-- The remote browser, with the time in milliseconds that an address may take to open. -/
def remoteBrowser (timeout : Int) : Browser RemotePage RemoteTarget where
  name := "PlaywrightDriver"
  navigate := navigate timeout
  locate := locate
  readAttribute := readAttribute
  readText := readText
  readValue := readValue
  click e := call e .click
  clear e := call e .clear
  type := type
  submit e := call e .submitForm
  press e key := call e (.press key)
  scroll e := call e .scroll
  wait := wait
  screenshot path := call .page (.screenshot path)
  pageSource := do
    call .page .content
    return (← Act.get).page.html
  currentUrl := do return some (← Act.get).page.url

end Walkthrough
