import Walkthrough.Scene
import Walkthrough.Settings.Basic

/-!
Browser sessions. Opening one acquires an engine, a browser, a context and a page, in this order, and
traces the context if the settings ask for it; closing it releases what was acquired, last first. A
failed opening releases what it acquired before the failure.
-/

namespace Walkthrough

/-- The steps of opening and closing that can fail. -/
inductive SessionStep
  | start
  | launch
  | newContext
  | startTrace
  | newPage
  | stopTrace
  | closeContext
  | closeBrowser
  | stop
  deriving DecidableEq, Repr

inductive SessionCall
  | start
  | launch (headless : Bool)
  | newContext (width height : Int) (locale : String)
  /-- Begins to trace the context, with pictures of the page and the sources. -/
  | startTrace
  | newPage
  /-- Ends the trace and keeps it at a path. -/
  | stopTrace (path : String)
  | closeContext
  | closeBrowser
  | stop
  deriving DecidableEq, Repr

def SessionCall.step : SessionCall → SessionStep
  | start => .start
  | launch _ => .launch
  | newContext .. => .newContext
  | startTrace => .startTrace
  | newPage => .newPage
  | stopTrace _ => .stopTrace
  | closeContext => .closeContext
  | closeBrowser => .closeBrowser
  | stop => .stop

/-- What a session holds, and the calls it made for it. -/
structure Session where
  engine : Bool := false
  browser : Bool := false
  context : Bool := false
  tracing : Bool := false
  /-- The navigation timeout of the page, if one is open. -/
  page : Option Int := none
  failures : List (SessionStep × Fault) := []
  journal : List SessionCall := []
  deriving Repr

/-- How a session is opened. -/
structure SessionOptions where
  id : String
  settings : Settings := {}
  /-- Where the trace is kept; without a directory nothing is traced. -/
  directory : Option String := none

namespace Session

/-- Makes a call: it is in the journal even if it fails. -/
def call (c : SessionCall) : Act (Scene Session) Unit :=
  Scene.onPage fun s =>
    let s := { s with journal := s.journal ++ [c] }
    match Assoc.get? c.step s.failures with
    | some fault => (.error fault, s)
    | none => (.ok (), s)

/-- Notes what is held. -/
def hold (change : Session → Session) : Act (Scene Session) Unit :=
  Scene.onPage fun s => (.ok (), change s)

/-- The directory of a trace, if there is to be one. -/
def traceDirectory (o : SessionOptions) : Option String :=
  match o.settings.trace, o.directory with
  | true, some directory => if directory.isEmpty then none else some directory
  | _, _ => none

/-- Acquires all that a session needs. -/
def acquire (o : SessionOptions) : Act (Scene Session) Unit := do
  call .start
  hold fun s => { s with engine := true }
  call (.launch o.settings.headless)
  hold fun s => { s with browser := true }
  call (.newContext o.settings.viewportWidth o.settings.viewportHeight o.settings.locale)
  hold fun s => { s with context := true }
  if (traceDirectory o).isSome then
    call .startTrace
    hold fun s => { s with tracing := true }
  call .newPage

/-- A step of closing whose failure is only a warning. -/
def tolerate (warning : String) (step : Act (Scene Session) Unit) : Act (Scene Session) Unit := do
  match ← step.attempt with
  | .ok () => pure ()
  | .error fault => Scene.say .warning .session (warning ++ ": " ++ fault.message)

/-- Keeps the trace in its directory. -/
def saveTrace (directory : String) : Act (Scene Session) Unit := do
  Scene.ensureDirectory directory
  call (.stopTrace (String.ofList (Path.join directory.toList "trace.zip".toList)))

/-- Releases all that is held. Only the engine's failure to stop ends this early. -/
def close (o : SessionOptions) : Act (Scene Session) Unit := do
  if (← Act.get).page.tracing then
    tolerate ("could not save trace for session " ++ o.id) (saveTrace (o.directory.getD ""))
    hold fun s => { s with tracing := false }
  if (← Act.get).page.context then
    tolerate ("error closing context of session " ++ o.id) (call .closeContext)
    hold fun s => { s with context := false }
  if (← Act.get).page.browser then
    tolerate ("error closing browser of session " ++ o.id) (call .closeBrowser)
    hold fun s => { s with browser := false }
  if (← Act.get).page.engine then
    call .stop
    hold fun s => { s with engine := false }
  hold fun s => { s with page := none }
  Scene.say .debug .session ("browser session " ++ o.id ++ " closed")

/-- Opens a session; what a failed opening acquired is released again. -/
def openPage (o : SessionOptions) : Act (Scene Session) Unit := do
  Scene.say .debug .session ("opening browser session " ++ o.id)
  match ← (acquire o).attempt with
  | .error fault =>
    close o
    Act.fail fault
  | .ok () => hold fun s => { s with page := some o.settings.navigationTimeout }

/-- A step in an open session, which is closed afterwards whatever the step comes to. -/
def within {α : Type} (o : SessionOptions) (step : Act (Scene Session) α) :
    Act (Scene Session) α := do
  openPage o
  let outcome ← step.attempt
  close o
  Act.lift outcome

end Session

end Walkthrough
