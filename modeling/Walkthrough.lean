import Walkthrough.Browser.Remote
import Walkthrough.Browser.Session
import Walkthrough.Main
import Walkthrough.Proofs.Run.Unobserved
import Walkthrough.Proofs.Scenario.FrontEnds
import Walkthrough.Service
import Walkthrough.Settings.Read
import Walkthrough.Proofs.Script.Consistency
import Walkthrough.Proofs.Browser.Calls
import Walkthrough.Proofs.Browser.Literals
import Walkthrough.Proofs.Run.Filling
import Walkthrough.Proofs.Run.Submission
import Walkthrough.Proofs.Run.Staying
import Walkthrough.Proofs.Run.Course
import Walkthrough.Proofs.Script.Layout
import Walkthrough.Proofs.Scenario.Refusals
import Walkthrough.Proofs.Run.Surfacing
import Walkthrough.Proofs.Run.FirstTouch
import Walkthrough.Proofs.Run.BestEffort
import Walkthrough.Proofs.Run.Suites
import Walkthrough.Proofs.Scenario.Escapes
import Walkthrough.Proofs.Browser.Cleanup
import Walkthrough.Proofs.Scenario.Likeness
import Walkthrough.Proofs.Run.StepLog
import Walkthrough.Proofs.Script.Faults
import Walkthrough.Proofs.Run.Resolution
import Walkthrough.Proofs.Run.Artifacts
import Walkthrough.Proofs.Run.Collecting
import Walkthrough.Proofs.Scenario.Locations
import Walkthrough.Proofs.Script.Joining
import Walkthrough.Proofs.Scenario.Files
import Walkthrough.Proofs.CommandLine.Validation
import Walkthrough.Proofs.Run.Entering
import Walkthrough.Proofs.Browser.Selecting
import Walkthrough.Proofs.Log.SetUps
import Walkthrough.Proofs.Run.Confinement
import Walkthrough.Proofs.Run.Dispatching
import Walkthrough.Proofs.Disk.Scanning
import Walkthrough.Proofs.Run.Pictures
import Walkthrough.Proofs.Script.Retaining
import Walkthrough.Proofs.Scenario.Building
