import Walkthrough.Disk.Scan
import Walkthrough.Run.Scenario
import Walkthrough.Scenario.Load

/-!
Running the scenario files of a directory, each in a browser session of its own. A file that fails
gives a failed result and never keeps the others from running. The sessions are journaled: which
were requested, opened and closed.
-/

namespace Walkthrough

/-- A session for one scenario: the browser and the page it opens, and how opening and closing it
fail. -/
structure SessionPlan (π η : Type) where
  browser : Browser π η
  page : π
  openFault : Option Fault := none
  closeFault : Option Fault := none

inductive SessionEvent (π : Type)
  /-- A session was asked for, for a run that keeps its artifacts in this directory. -/
  | requested (directory : String)
  | opened
  /-- The session was closed; this is the page it ended with. -/
  | closed (page : π)
  deriving Repr

/-- How far a session came. -/
inductive SessionState
  | created
  | isOpen
  | closed
  deriving DecidableEq, Repr

structure SessionRecord (π : Type) where
  directory : String
  state : SessionState
  /-- The page that the session ended with, if it was opened and closed. -/
  page : Option π := none
  deriving Repr

/-- The sessions of a journal in the order in which they were requested. -/
def SessionRecord.ofEvents {π : Type} : List (SessionEvent π) → List (SessionRecord π)
  | [] => []
  | .requested d :: .opened :: .closed p :: rest => ⟨d, .closed, some p⟩ :: ofEvents rest
  | .requested d :: .opened :: rest => ⟨d, .isOpen, none⟩ :: ofEvents rest
  | .requested d :: rest => ⟨d, .created, none⟩ :: ofEvents rest
  | _ :: rest => ofEvents rest

/-- What runs scenario files: the plan of a session by the directory of its artifacts. -/
structure Suite (π η : Type) where
  runner : Runner π η
  session : String → SessionPlan π η

/-- The scene of a suite, which shows the journal of its sessions. -/
abbrev Suite.Journal (π : Type) := Scene (List (SessionEvent π))

/-- The result of a scenario that failed with a fault. -/
def ScenarioResult.failed (name directory : String) (fault : Fault) : ScenarioResult where
  name := name
  passed := false
  error := some fault.message
  errorType := some fault.typeName
  runDirectory := some directory

/-- The results of the files of a directory. -/
structure SuiteResult where
  results : List ScenarioResult := []
  deriving DecidableEq, Repr

namespace SuiteResult

def failed (r : SuiteResult) : List ScenarioResult := r.results.filter (fun s => !s.passed)

def passed (r : SuiteResult) : Bool := r.results.all ScenarioResult.passed

end SuiteResult

/-- The name of the scenario in a file: that of the file without its extension. -/
def scenarioName (path : String) : String :=
  String.ofList (Path.splitExtension (Path.baseName path.toList)).1

/-- Where the artifacts of the scenario in a file go. -/
def Settings.runDirectory (s : Settings) (path : String) : String :=
  joinPath s.artifactRoot (sanitizeName (scenarioName path))

namespace Suite

variable {π η α : Type}

def note (event : SessionEvent π) : Act (Journal π) Unit :=
  Act.modify fun s => { s with page := s.page ++ [event] }

/-- A step in a scene that shows another page; what that page becomes is part of the outcome. -/
def showing (page : π) (step : Act (Scene π) α) : Act (Journal π) (Except Fault α × π) := fun s =>
  let (outcome, t) := step ⟨page, s.disk, s.log, s.flagSets, s.cacheClears⟩
  (.ok (outcome, t.page), ⟨s.page, t.disk, t.log, t.flagSets, t.cacheClears⟩)

/-- A step in a session of its own, which is closed whatever the step comes to. A failure to close
it replaces what the step came to. -/
def inSession (plan : SessionPlan π η) (directory : String) (step : Act (Scene π) α) :
    Act (Journal π) α := do
  note (.requested directory)
  match plan.openFault with
  | some fault => Act.fail fault
  | none =>
    note .opened
    let (outcome, page) ← showing plan.page step
    note (.closed page)
    match plan.closeFault with
    | some fault => Act.fail fault
    | none => Act.lift outcome

/-- The scenario in a file, read when its turn comes. -/
def loadFile [StackRoom] (path : String) : Act (Journal π) Scenario := fun s =>
  (Scenario.load s.disk path, s)

/-- Reads and runs one file; any failure is its result. -/
def runFile [StackRoom] (suite : Suite π η) (path : String) : Act (Journal π) ScenarioResult := do
  let name := scenarioName path
  let directory := suite.runner.settings.runDirectory path
  let playing : Act (Journal π) ScenarioResult := do
    let scenario ← loadFile path
    let plan := suite.session directory
    inSession plan directory (suite.runner.run scenario plan.browser name (some directory))
  match ← playing.attempt with
  | .ok result => return result
  | .error fault =>
    Scene.say .error .run ("scenario " ++ path ++ " failed")
    return ScenarioResult.failed name directory fault

/-- What the log says of a result. -/
def verdict (r : ScenarioResult) : String :=
  r.name ++ ": " ++
    if r.passed then "PASSED" else "FAILED (" ++ Perform.shown r.error ++ ")"

def runFiles [StackRoom] (suite : Suite π η) :
    List String → Act (Journal π) (List ScenarioResult)
  | [] => return []
  | path :: rest => do
    let result ← suite.runFile path
    Scene.say .info .run (verdict result)
    return result :: (← suite.runFiles rest)

/-- Runs the scenario files of a directory in order. -/
def runDirectory [StackRoom] (suite : Suite π η) (directory : String) :
    Act (Journal π) SuiteResult := do
  let files ← fun s =>
    ((s.disk.scan directory suite.runner.settings.patterns).mapError Fault.foreign, s)
  Scene.say .info .run ("found " ++ toString files.length ++ " scenario file(s) in " ++ directory)
  return ⟨← suite.runFiles files⟩

end Suite

end Walkthrough
