import Walkthrough.Browser.Memory
import Walkthrough.CommandLine.Commands

/-!
The program. It reads the files that a command line names, does what it asks for, and prints the
report. No browser is connected to it, so it checks scenarios and runs none.
-/

namespace Walkthrough.Program

/-- A disk with the working directory and those above it. -/
def workingDisk : IO Disk := do
  let path := (toString (← IO.currentDir)).toList
  return { (({} : Disk).ensureAll (path.length + 1) path).2 with cwd := Path.steps path }

/-- Puts a file on a disk, or a directory where there is something else than a file. -/
def readFile (d : Disk) (path : String) : IO Disk := do
  let place := path.toList
  try
    let bytes ← IO.FS.readBinFile path
    let d := (d.ensureAll (place.length + 1) (Path.split place).1).2
    return (d.write place bytes.toList).toOption.getD d
  catch error =>
    match error with
    | .noFileOrDirectory .. => return d
    | _ => return (d.ensureAll (place.length + 1) place).2

def readFiles (d : Disk) : List String → IO Disk
  | [] => return d
  | path :: rest => do readFiles (← readFile d path) rest

/-- What runs scenarios: every session fails to open, so that no page ever takes time. -/
def suite : Suite MemoryPage String where
  runner := { registry := ⟨[]⟩, flags := FlagService.client, stopwatch := fun _ _ => 0 }
  session _ :=
    { browser := memoryBrowser "none", page := {},
      openFault := some (.foreign ⟨.browser, "No browser is connected"⟩) }

/-- The files that an invocation reads. -/
def filesOf : Invocation → List String
  | .command _ (some (.validate files)) => files
  | .command _ (some (.run directory)) => directory.toList
  | _ => []

end Walkthrough.Program

open Walkthrough in
def main (arguments : List String) : IO UInt32 := do
  let invocation := Invocation.ofArguments arguments
  let disk ← Program.readFiles (← Program.workingDisk) (Program.filesOf invocation)
  let scene : Suite.Journal MemoryPage := { page := [], disk := disk }
  let report := match (CommandLine.perform .utf8 Program.suite {} invocation scene).1 with
    | .ok report => report
    | .error fault => { ending := .error fault }
  (← IO.getStdout).write ⟨(Text.Utf8.encode (Text.points report.output.toList)).toArray⟩
  if invocation = .refused then IO.eprint HelpPage.program.text
  match report.ending with
  | .ok code => return code.toUInt32
  | .error fault =>
    IO.eprintln (fault.typeName ++ ": " ++ fault.message)
    return 1
