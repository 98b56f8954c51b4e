import Walkthrough.Disk.Basic
import Walkthrough.Scenario.Format

/-!
Scenario files. The extension of a file decides its form; the text is UTF-8 with line ends of any
kind.
-/

namespace Walkthrough

/-- The form of the scenario in a file of this path. -/
def Format.ofPath (path : String) : Format :=
  let extension := Text.lower (String.ofList (Path.splitExtension path.toList).2)
  if extension = ".json" then .json
  else if extension = ".yaml" || extension = ".yml" then .yaml
  else .script

namespace Scenario

/-- The text of a scenario file. -/
def readSource (d : Disk) (path : String) : Except Fault String :=
  let place := Path.tidy path.toList
  let shown := String.ofList place
  let unreadable := fun (text : String) =>
    Fault.source ("Cannot read scenario file " ++ shown ++ ": " ++ text) (some shown)
  match d.stat place with
  | .error .missing | .error .notDirectory | .error .nullByte =>
    .error (.source ("Scenario file does not exist: " ++ shown) (some shown))
  | .error refusal => .error (.foreign (refusal.about shown))
  | .ok .directory =>
    .error (.source ("Path does not point to a regular file: " ++ shown) (some shown))
  | .ok (.file bytes) =>
    match Text.Utf8.decode bytes with
    | .error fault => .error (unreadable fault.message)
    | .ok cs => .ok (Text.ofChars (Text.unifyNewlines cs))

/-- The scenario in a file. -/
def load [StackRoom] (d : Disk) (path : String) : Except Fault Scenario :=
  match readSource d path with
  | .error fault => .error fault
  | .ok text => ofText (Format.ofPath path) text (some path)

end Scenario

end Walkthrough
