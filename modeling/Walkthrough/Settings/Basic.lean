import Walkthrough.Text.Blank

/-!
Settings of a run and of its browser, with their defaults.
-/

namespace Walkthrough

structure Settings where
  /-- Where the artifacts of each scenario go, in a directory of its own. -/
  artifactRoot : String := "./artifacts"
  /-- Where the screenshots before each action go. -/
  screenshotFolder : String := "./artifacts/screenshots"
  headless : Bool := true
  viewportWidth : Int := 1440
  viewportHeight : Int := 900
  locale : String := "en-US"
  navigationTimeout : Int := 15000
  trace : Bool := false
  /-- How long to wait for a field before a value is entered; zero skips the wait. -/
  enterWait : Int := 15000
  enterPressEnter : Bool := true
  scrollIntoView : Bool := true
  /-- The file name patterns of scenarios, between commas. -/
  scenarioPatterns : String := "*.json,*.yaml,*.yml,*.scenario"
  logLevel : String := "INFO"
  /-- Where log files go; none are written if it is empty. -/
  logDirectory : String := ""
  deriving DecidableEq, Repr, Inhabited

/-- The patterns that are not blank. -/
def Settings.patterns (s : Settings) : List String :=
  (((Text.splitOnChar ',' s.scenarioPatterns.toList).map Text.trim).filter
    (fun part => !part.isEmpty)).map String.ofList

end Walkthrough
