import Walkthrough.CommandLine.Invocation
import Walkthrough.Json.Writer
import Walkthrough.Log.Setup
import Walkthrough.Run.Suite

/-!
The commands of the program: checking scenario files and printing what they say, and running the
scenario files of a directory. What was printed before a text that cannot be printed, or before
another failure, stays printed.
-/

namespace Walkthrough

/-- Where a program prints: the failure of printing a text, if it cannot be printed there. -/
structure Console where
  refusal? : String → Option Foreign

/-- What a program leaves behind: what it printed, and its exit code or the fault that ended it. -/
structure Report where
  output : String := ""
  ending : Except Fault Nat := .ok 0

namespace Console

/-- A console that takes all texts. -/
def memory : Console := ⟨fun _ => none⟩

/-- A console that texts are encoded for, so that none with a surrogate can be printed. -/
def utf8 : Console where
  refusal? line :=
    match Text.Utf8.encodeText line with
    | .error u => some ⟨.encoding, u.message⟩
    | .ok _ => none

/-- Prints a line. -/
def print (console : Console) (line : String) : Act String Unit := fun printed =>
  match console.refusal? line with
  | some failure => (.error (.foreign failure), printed)
  | none => (.ok (), printed ++ line ++ "\n")

/-- Prints lines, up to the first that cannot be printed. -/
def printAll (console : Console) : List String → Act String Unit
  | [] => return
  | line :: rest => do
    console.print line
    console.printAll rest

/-- The report of lines that are printed before a program ends. -/
def report (console : Console) (lines : List String) (code : Nat) : Report :=
  let (ending, output) := console.printAll lines ""
  ⟨output, ending.map fun _ => code⟩

end Console

/-- What is said of a file that was checked. -/
inductive Validation
  | valid (path : String) (scenario : Scenario)
  | invalid (path message : String)
  deriving DecidableEq, Repr

namespace Validation

/-- What is printed at once. -/
def lines : Validation → List String
  | valid path s => ["OK " ++ path, Json.writeIndented s.summary]
  | invalid path message => ["INVALID " ++ path ++ ": " ++ message]

def isInvalid : Validation → Bool
  | valid .. => false
  | invalid .. => true

end Validation

namespace CommandLine

/-- The faults of a scenario file that a check reports. -/
def isReported : Fault → Bool
  | .format .. | .source .. => true
  | .foreign f => f.kind == .value
  | _ => false

/-- Checks a file. -/
def validateFile [StackRoom] (d : Disk) (path : String) : Except Fault Validation :=
  match Scenario.load d path with
  | .ok s => .ok (.valid path s)
  | .error fault =>
    if isReported fault then .ok (.invalid path fault.message) else .error fault

/-- Checks files in order and prints what they say; the code is 1 after an invalid one. -/
def validateFrom [StackRoom] (console : Console) (d : Disk) (code : Nat) :
    List String → Act String Nat
  | [] => return code
  | path :: rest => do
    let v ← Act.lift (validateFile d path)
    console.printAll v.lines
    validateFrom console d (if v.isInvalid then 1 else code) rest

/-- Checks files, prints what they say and gives the exit code. -/
def validate [StackRoom] (console : Console) (d : Disk) (files : List String) :
    Act String Nat :=
  validateFrom console d 0 files

/-- The lines about one result. -/
def resultLines (r : ScenarioResult) : List String :=
  ((if r.passed then "PASSED " else "FAILED ") ++ r.name ++ " (" ++ toString r.pagesRun ++
    " page(s))" ++
    (match r.error with
      | none | some "" => ""
      | some text => ": " ++ text)) :: r.warnings.map fun w => "  warning: " ++ w

/-- The lines about the results of a suite. -/
def suiteLines (r : SuiteResult) : List String :=
  r.results.flatMap resultLines ++
    [toString (r.results.length - r.failed.length) ++ "/" ++ toString r.results.length ++
      " scenario(s) passed"]

variable {π η : Type}

/-- Runs the scenario files of a directory; it fails if a scenario failed. That there is nothing to
run is said and fails nothing. -/
def run [StackRoom] (console : Console) (suite : Suite π η) (directory : Option String) :
    Act (Suite.Journal π) Report := do
  match directory with
  | none | some "" => return console.report ["Please provide a directory containing scenario files."] 0
  | some directory =>
    if (← Act.get).disk.isDirectory directory.toList then
      let r ← suite.runDirectory directory
      if r.results.isEmpty then return console.report ["No scenario files found in " ++ directory] 0
      else return console.report (suiteLines r) (if r.passed then 0 else 1)
    else return console.report ["Not a directory: " ++ directory] 0

/-- Sets a log up, which writes to the disk of the scene. -/
def setUpLog (log : Logging) (settings : Settings) (level : Option String) :
    Act (Suite.Journal π) Unit := fun s =>
  let (outcome, log) := Logging.configure settings level none { log with disk := s.disk }
  (outcome, { s with disk := log.disk })

/-- Does what a command line asks for, after it set the log up. -/
def perform [StackRoom] (console : Console) (suite : Suite π η) (log : Logging) :
    Invocation → Act (Suite.Journal π) Report
  | .help page => return { output := page.text }
  | .refused => return { ending := .ok 2 }
  | .command level command => do
    setUpLog log suite.runner.settings level
    match command with
    | none => return { output := HelpPage.program.text }
    | some (.run directory) => run console suite directory
    | some (.validate files) => fun s =>
      let (ending, output) := validate console s.disk files ""
      (.ok ⟨output, ending⟩, s)

end CommandLine

end Walkthrough
