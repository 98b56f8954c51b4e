import Walkthrough.Browser.Basic
import Walkthrough.Json.Writer
import Walkthrough.Text.Digit

/-!
Evidence of a run: the screenshots before each action, and what is kept of a page that failed. None
of it ever fails a run; what cannot be had is noted instead.
-/

namespace Walkthrough

/-- Characters that may stand in file names. -/
def isSafe (c : Char) : Bool := c.isAlphanum || c == '.' || c == '-'

/-- The text of a name in which only ASCII letters, digits, dots and hyphens stay what they are. -/
def sanitizeName (name : String) : String :=
  String.ofList ((Text.points name.toList).map fun n =>
    if isSafe (Char.ofNat n) then Char.ofNat n else '_')

/-- A path below a directory. -/
def joinPath (directory name : String) : String :=
  String.ofList (Path.join directory.toList name.toList)

/-- A time of day of the calendar. -/
structure Clock where
  year : Nat := 1
  month : Nat := 1
  day : Nat := 1
  hour : Nat := 0
  minute : Nat := 0
  second : Nat := 0
  deriving DecidableEq, Repr

/-- The time as it stands in the names of screenshots; the year has as many digits as it needs. -/
def Clock.stamp (c : Clock) : List Char :=
  let two := fun n => Text.padLeft 2 (Text.decimal n)
  Text.decimal c.year ++ two c.month ++ two c.day ++ '_' :: two c.hour ++ two c.minute ++
    two c.second

/-- Takes screenshots and names them after the page and the time. -/
structure Photographer where
  /-- The time at each moment of a run. -/
  clock : Nat → Clock

namespace Photographer

def fileName (time : Clock) (name : String) (page : Int) : String :=
  sanitizeName name ++ "_page" ++ toString page ++ "_" ++ String.ofList time.stamp ++ ".png"

/-- The path of a screenshot in a directory that is seen from the root. -/
def path (time : Clock) (name : String) (page : Int) (directory : String) : String :=
  joinPath (String.ofList (Path.absolute directory.toList)) (fileName time name page)

variable {π η : Type}

/-- Takes a screenshot with a time in its name, the directory being seen from a working directory; its
path, if there is one. -/
def takeAt (time : Clock) (cwd : String) (b : Browser π η) (name : String) (page : Int)
    (directory : String) : Act (Scene π) (Option String) := do
  let path := path time name page (joinPath cwd directory)
  let taking : Act (Scene π) Unit := do
    Scene.ensureDirectory directory
    b.screenshot path
  match ← taking.attempt with
  | .ok () =>
    Scene.say .info .evidence ("screenshot saved to " ++ path)
    return some path
  | .error (.foreign ⟨.notImplemented, _⟩) =>
    Scene.say .warning .evidence ("driver " ++ b.name ++ " does not support screenshots")
    return none
  | .error fault =>
    Scene.say .error .evidence ("failed to save screenshot " ++ path ++ ": " ++ fault.message)
    return none

/-- Takes a screenshot; the time in its name is that before it is taken. -/
def take (p : Photographer) (b : Browser π η) (name : String) (page : Int) (directory : String) :
    Act (Scene π) (Option String) := do
  let now ← Act.get
  takeAt (p.clock now.moment) now.disk.workingDirectory b name page directory

end Photographer

/-- What is said of a page that failed. -/
structure FailedPage where
  index : Int
  page : String
  fault : Option Fault
  deriving DecidableEq, Repr

/-- What could be collected of a page that failed. An error stands for a part that could not. -/
structure Collected where
  screenshot : Except String String
  /-- The path of the page source and its length. -/
  html : Except String (String × Nat)
  url : Except String (Option String)

/-- The evidence of a page that failed: nothing without a directory to keep it in. -/
inductive Evidence
  | noDirectory (page : FailedPage) (error : String)
  /-- The parts, and where they are listed. -/
  | kept (page : FailedPage) (parts : Collected) (context : Except String String)

namespace Evidence

def pageEntries (p : FailedPage) : List (String × Data) :=
  [("page_index", .int p.index), ("page", .text p.page),
    ("error", openText (p.fault.map Fault.message)),
    ("error_type", openText (p.fault.map Fault.typeName))]

def partEntries (c : Collected) : List (String × Data) :=
  (match c.screenshot with
    | .ok path => [("screenshot_path", .text path)]
    | .error text => [("screenshot_error", .text text)]) ++
  (match c.html with
    | .ok (path, size) => [("html_path", .text path), ("html_size", .int size)]
    | .error text => [("html_error", .text text)]) ++
  match c.url with
    | .ok url => [("current_url", openText url)]
    | .error text => [("current_url_error", .text text)]

/-- The list of the parts as it is kept beside them. -/
def contextEntries (p : FailedPage) (c : Collected) : List (String × Data) :=
  pageEntries p ++ partEntries c

/-- All that is said of the evidence. -/
def entries : Evidence → List (String × Data)
  | noDirectory p error => pageEntries p ++ [("run_dir_error", .text error)]
  | kept p c context =>
    contextEntries p c ++
      match context with
      | .ok path => [("context_path", .text path)]
      | .error text => [("context_error", .text text)]

/-- Entries as a value. -/
def asData (es : List (String × Data)) : Data := .map (es.map fun (k, v) => (.text k, v))

variable {π η : Type}

/-- A part of the evidence, or the text of its fault. -/
def part {α : Type} (step : Act (Scene π) α) : Act (Scene π) (Except String α) := do
  return (← step.attempt).mapError Fault.message

/-- A step, or the text of its fault if that is one of the system. -/
def systemPart {α : Type} (step : Act (Scene π) α) : Act (Scene π) (Except String α) := do
  match ← step.attempt with
  | .ok a => return .ok a
  | .error fault => if fault.isSystem then return .error fault.message else Act.fail fault

/-- The name of a file about a page. -/
def pageFile (index : Int) (extension : String) : String :=
  "failure_page_" ++ String.ofList (Text.signedPadded 3 index) ++ extension

def collectParts (b : Browser π η) (directory : String) (index : Int) :
    Act (Scene π) Collected := do
  let picture := joinPath directory (pageFile index ".png")
  let screenshot ← part do
    b.screenshot picture
    return picture
  let path := joinPath directory (pageFile index ".html")
  let html ← part do
    let source ← b.pageSource
    Scene.writeTexts path [source]
    return (path, Text.length source)
  let url ← part b.currentUrl
  return ⟨screenshot, html, url⟩

/-- Collects what can be had of a page that failed, and lists it. Only a name or an address that cannot
be written ends this early. -/
def collect (b : Browser π η) (directory : String) (page : FailedPage) :
    Act (Scene π) Evidence := do
  match ← systemPart (Scene.ensureDirectory directory) with
  | .error text =>
    Scene.say .error .evidence ("cannot create run directory " ++ directory ++ ": " ++ text)
    return .noDirectory page text
  | .ok () =>
    let parts ← collectParts b directory page.index
    let path := joinPath directory "failure_context.json"
    let list := Json.indentedParts (asData (contextEntries page parts))
    match ← systemPart (Scene.writeTexts path list) with
    | .ok () => return .kept page parts (.ok path)
    | .error text =>
      Scene.say .error .evidence ("failed to write failure context: " ++ text)
      return .kept page parts (.error text)

end Evidence

end Walkthrough
