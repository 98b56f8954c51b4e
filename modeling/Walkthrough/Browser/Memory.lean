import Walkthrough.Browser.Basic

/-!
A browser in memory. Its page has named elements and says which locator finds which of them; every
call can be made to fail. The page keeps a journal of what was done to it and the queries it got.
-/

namespace Walkthrough

/-- What can be done to an element. -/
inductive Touch
  | click
  | clear
  | type (text : Option String)
  | submit
  | press (key : String)
  | scroll
  | wait (milliseconds : Int)
  deriving DecidableEq, Repr

/-- The calls of an element that can fail. -/
inductive ElementCall
  | readAttribute
  | readText
  | click
  | clear
  | type
  | submit
  | press
  | scroll
  | wait
  deriving DecidableEq, Repr

def Touch.call : Touch → ElementCall
  | .click => .click
  | .clear => .clear
  | .type _ => .type
  | .submit => .submit
  | .press _ => .press
  | .scroll => .scroll
  | .wait _ => .wait

/-- The calls of a page that can fail. -/
inductive PageCall
  | navigate
  | screenshot
  | pageSource
  | currentUrl
  deriving DecidableEq, Repr

inductive JournalEntry
  | navigate (url : String)
  | screenshot (path : String)
  /-- The hook before the first touch of an action was called for an element. -/
  | hook (element : String)
  | touch (element : String) (touch : Touch)
  deriving DecidableEq, Repr

structure PageElement where
  attributes : List (String × Option String) := []
  text : String := ""
  failures : List (ElementCall × Fault) := []
  /-- An element that neither scrolls nor waits. -/
  plain : Bool := false
  deriving DecidableEq, Repr, Inhabited

namespace PageElement

def attribute? (e : PageElement) (name : String) : Option String :=
  (Assoc.get? name e.attributes).join

def withValue (e : PageElement) (value : String) : PageElement :=
  { e with attributes := Assoc.put "value" (some value) e.attributes }

/-- The element after a touch that did not fail. -/
def touched (e : PageElement) : Touch → Except Fault PageElement
  | .clear => .ok (e.withValue "")
  | .type (some text) => .ok (e.withValue ((e.attribute? "value").getD "" ++ text))
  | .type none =>
    .error (.foreign ⟨.type, "can only concatenate str (not \"NoneType\") to str"⟩)
  | _ => .ok e

/-- A plain element takes no notice of scrolling and waiting. -/
def ignores (e : PageElement) : Touch → Bool
  | .scroll | .wait _ => e.plain
  | _ => false

end PageElement

structure MemoryPage where
  elements : List (String × PageElement) := []
  /-- The elements that locators find. -/
  places : List (Locator × String) := []
  /-- The locators whose look-up fails. -/
  lookupFailures : List (Locator × Fault) := []
  html : String := "<html></html>"
  failures : List (PageCall × Fault) := []
  /-- A browser that records nothing of its page. -/
  bare : Bool := false
  url : Option String := none
  journal : List JournalEntry := []
  queries : List Locator := []

namespace MemoryPage

def element (p : MemoryPage) (name : String) : PageElement :=
  (Assoc.get? name p.elements).getD {}

def note (p : MemoryPage) (entry : JournalEntry) : MemoryPage :=
  { p with journal := p.journal ++ [entry] }

/-- What a list says about a locator. -/
def find? {α : Type} (l : Locator) (entries : List (Locator × α)) : Option α :=
  (entries.find? (fun e => e.1.same l)).map Prod.snd

/-- Ends a call: it fails if it is made to. -/
def check {α : Type} (p : MemoryPage) (call : PageCall) (result : α) (after : MemoryPage) :
    Except Fault α × MemoryPage :=
  match Assoc.get? call p.failures with
  | some fault => (.error fault, p)
  | none => (.ok result, after)

def navigate (url : String) (p : MemoryPage) : Except Fault Unit × MemoryPage :=
  let p := p.note (.navigate url)
  p.check .navigate () { p with url := some url }

/-- Looks a locator up: the first of its alternatives that finds an element. -/
def locate (l : Locator) (p : MemoryPage) : Except Fault (Option String) × MemoryPage :=
  let p := { p with queries := p.queries ++ [l] }
  match find? l p.lookupFailures with
  | some fault => (.error fault, p)
  | none => (.ok (l.alternatives.findSome? (fun part => find? part p.places)), p)

def readAttribute (name key : String) (p : MemoryPage) :
    Except Fault (Option String) × MemoryPage :=
  let e := p.element name
  match Assoc.get? .readAttribute e.failures with
  | some fault => (.error fault, p)
  | none => (.ok (e.attribute? key), p)

def readText (name : String) (p : MemoryPage) : Except Fault String × MemoryPage :=
  let e := p.element name
  match Assoc.get? .readText e.failures with
  | some fault => (.error fault, p)
  | none => (.ok e.text, p)

/-- Touches an element; the touch is in the journal even if it fails. -/
def touch (name : String) (t : Touch) (p : MemoryPage) : Except Fault Unit × MemoryPage :=
  let e := p.element name
  if e.ignores t then (.ok (), p)
  else
    let p := p.note (.touch name t)
    match Assoc.get? t.call e.failures with
    | some fault => (.error fault, p)
    | none =>
      match e.touched t with
      | .error fault => (.error fault, p)
      | .ok e => (.ok (), { p with elements := Assoc.put name e p.elements })

def browserName (p : MemoryPage) : String := if p.bare then "BareDriver" else "FakeDriver"

/-- The bytes that stand for a picture. -/
def picture : List UInt8 := [0x89, 0x50, 0x4E, 0x47]

def unsupported {α : Type} (text : String) (p : MemoryPage) : Except Fault α × MemoryPage :=
  (.error (.foreign ⟨.notImplemented, p.browserName ++ " does not " ++ text⟩), p)

/-- Takes a picture of the page as far as the page is concerned. -/
def beforePicture (path : String) (p : MemoryPage) : Except Fault Unit × MemoryPage :=
  if p.bare then p.unsupported "support screenshots"
  else
    let p := p.note (.screenshot path)
    p.check .screenshot () p

def pageSource (p : MemoryPage) : Except Fault String × MemoryPage :=
  if p.bare then p.unsupported "expose the page source" else p.check .pageSource p.html p

def currentUrl (p : MemoryPage) : Except Fault (Option String) × MemoryPage :=
  if p.bare then (.ok none, p) else p.check .currentUrl p.url p

end MemoryPage

open Scene

/-- The browser that shows a page in memory. -/
def memoryBrowser (name : String) : Browser MemoryPage String where
  name := name
  navigate url := onPage (MemoryPage.navigate url)
  locate l := onPage (MemoryPage.locate l)
  readAttribute e key := onPage (MemoryPage.readAttribute e key)
  readText e := onPage (MemoryPage.readText e)
  readValue := valueOrText (fun e key => onPage (MemoryPage.readAttribute e key))
    (fun e => onPage (MemoryPage.readText e))
  click e := onPage (MemoryPage.touch e .click)
  clear e := onPage (MemoryPage.touch e .clear)
  type e text := onPage (MemoryPage.touch e (.type text))
  submit e := onPage (MemoryPage.touch e .submit)
  press e key := onPage (MemoryPage.touch e (.press key))
  scroll e := onPage (MemoryPage.touch e .scroll)
  wait e ms := onPage (MemoryPage.touch e (.wait ms))
  screenshot path := do
    onPage (MemoryPage.beforePicture path)
    onDisk path fun d => d.write path.toList MemoryPage.picture
  pageSource := onPage MemoryPage.pageSource
  currentUrl := onPage MemoryPage.currentUrl

end Walkthrough
