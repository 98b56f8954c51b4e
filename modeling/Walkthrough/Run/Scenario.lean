import Walkthrough.Run.Dispatch
import Walkthrough.Run.Evidence
import Walkthrough.Run.Flags
import Walkthrough.Settings.Basic

/-!
Running a scenario: the flags first, then for each page in order navigate to the host, compare the
expected values, and perform the action. The first failure ends the run, after evidence of it was
kept.
-/

namespace Walkthrough

structure ScenarioResult where
  name : String
  passed : Bool
  error : Option String := none
  errorType : Option String := none
  warnings : List String := []
  pagesRun : Nat := 0
  runDirectory : Option String := none
  deriving DecidableEq, Repr

/-- What the log of a run says of one page. -/
structure StepEntry where
  index : Nat
  page : String
  passed : Bool
  /-- How long the page took. -/
  milliseconds : UInt64
  warnings : List String
  error : Option String
  deriving DecidableEq, Repr

def StepEntry.toData (e : StepEntry) : Data :=
  .map ([(.text "i", .int e.index), (.text "page", .text e.page),
    (.text "status", .text (if e.passed then "PASSED" else "FAILED")),
    (.text "duration_ms", .int e.milliseconds.toNat),
    (.text "warnings", .list (e.warnings.map .text))] ++
    (e.error.map fun text => (Data.text "error", Data.text text)).toList)

/-- The name of the file with the entries of a run, one a line. -/
def stepLogName : String := "step_log.jsonl"

/-- The whole milliseconds that pass from one moment of a run to another. -/
abbrev Stopwatch := Nat → Nat → UInt64

/-- How long it took from one scene to another. -/
def Stopwatch.took {π : Type} (w : Stopwatch) (start now : Scene π) : UInt64 :=
  w start.moment now.moment

structure Runner (π η : Type) where
  registry : Registry π η
  flags : FlagService π
  /-- Takes a screenshot of each page right before its action touches it. -/
  photographer : Option Photographer := none
  settings : Settings := {}
  stopwatch : Stopwatch

/-- How to enter values by the settings. -/
def Settings.enterOptions (s : Settings) : EnterOptions :=
  ⟨some s.enterWait, s.enterPressEnter, s.scrollIntoView⟩

/-- The strategies that the settings ask for. -/
def Registry.standard {π η : Type} (s : Settings) : Act (Scene π) (Registry π η) :=
  Registry.build (Strategy.standard s.enterOptions)

/-- What a run does for one page. -/
structure Turn where
  page : String
  expected : List Expected := []
  request : Request

def Page.turn (p : Page) : Turn := ⟨p.name, p.expected, .action p.action⟩

namespace Run

variable {π η : Type}

/-- Compares what fields show with the values expected of them, in order. -/
def checkExpected (r : Resolver π η) : List Expected → Act (Scene π) Unit
  | [] => pure ()
  | e :: rest => do
    let actual ← r.valueOf e.target
    if actual = e.value then
      Scene.say .debug .run ("field '" ++ e.target ++ "' has expected value")
      checkExpected r rest
    else Act.fail (.mismatch e.target e.value (some actual))

/-- A run directory that is named. -/
def namedDirectory : Option String → Option String
  | none | some "" => none
  | some directory => some directory

/-- Adds an entry to the log of the run. A failure of the system to do so fails nothing. -/
def logStep (directory : Option String) (entry : StepEntry) : Act (Scene π) Unit :=
  match namedDirectory directory with
  | none => pure ()
  | some directory => do
    let writing : Act (Scene π) Unit := do
      Scene.ensureDirectory directory
      Scene.appendText (joinPath directory stepLogName) (Json.write entry.toData ++ "\n")
    match ← writing.attempt with
    | .ok () => pure ()
    | .error fault =>
      if fault.isSystem then
        Scene.say .error .run
          ("failed to write step log in " ++ directory ++ ": " ++ fault.message)
      else Act.fail fault

/-- The hook of a page: a screenshot, if someone takes it. -/
def pageHook (runner : Runner π η) (b : Browser π η) (page : String) (index : Nat) : Hook π η :=
  runner.photographer.map fun p _ => do
    let _ ← p.take b (page ++ "-On_Page") index runner.settings.screenshotFolder

/-- One page: its expected values and its action. -/
def runPage (runner : Runner π η) (r : Resolver π η) (host : String) (index : Nat) (turn : Turn) :
    Act (Scene π) Outcome := do
  r.browser.navigate host
  checkExpected r turn.expected
  runner.registry.dispatch r turn.request (pageHook runner r.browser turn.page index)

/-- What is done about a page that failed. How long it took is asked when that is done. -/
def recordFailure (took : Scene π → UInt64) (b : Browser π η) (name : String)
    (directory : Option String) (index : Nat) (page : String) (fault : Fault) :
    Act (Scene π) Unit := do
  Scene.say .error .run ("page " ++ toString index ++ " (" ++ page ++ ") of " ++ name ++
    " failed: " ++ fault.message)
  match namedDirectory directory with
  | none => pure ()
  | some directory =>
    let _ ← Evidence.collect b directory ⟨index, page, some fault⟩
  logStep directory ⟨index, page, false, took (← Act.get), [], some fault.message⟩

/-- The pages from number `index` on. The result so far counts those before it. -/
def runPages (runner : Runner π η) (r : Resolver π η) (host : String) (index : Nat)
    (result : ScenarioResult) : List Turn → Act (Scene π) ScenarioResult
  | [] => return result
  | turn :: rest => do
    let start ← Act.get
    match ← (runPage runner r host index turn).attempt with
    | .error fault =>
      recordFailure (runner.stopwatch.took start) r.browser result.name result.runDirectory index turn.page
        fault
      Act.fail fault
    | .ok outcome =>
      let took := runner.stopwatch.took start (← Act.get)
      logStep result.runDirectory ⟨index, turn.page, true, took, outcome.warnings, none⟩
      Scene.say .info .run ("page " ++ toString index ++ " (" ++ turn.page ++ ") passed")
      runPages runner r host (index + 1)
        { result with warnings := result.warnings ++ outcome.warnings, pagesRun := index } rest

end Run

/-- Applies the flags and takes the turns at a host. -/
def Runner.play {π η : Type} (runner : Runner π η) (host : String)
    (features : List (String × Feature)) (turns : List Turn) (b : Browser π η) (name : String)
    (directory : Option String) : Act (Scene π) ScenarioResult := do
  Scene.say .info .run ("running scenario " ++ name ++ " against " ++ host ++ " (" ++
    toString turns.length ++ " pages)")
  runner.flags features
  let result ← Run.runPages runner ⟨b, Lookup.all⟩ host 1
    { name := name, passed := false, runDirectory := directory } turns
  Scene.say .info .run ("scenario " ++ name ++ " passed")
  return { result with passed := true }

/-- Runs a scenario in a browser. -/
def Runner.run {π η : Type} (runner : Runner π η) (scenario : Scenario) (b : Browser π η)
    (name : String) (directory : Option String) : Act (Scene π) ScenarioResult :=
  runner.play scenario.host scenario.features (scenario.pages.map Page.turn) b name directory

end Walkthrough
