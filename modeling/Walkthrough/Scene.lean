import Walkthrough.Act
import Walkthrough.Disk.Basic
import Walkthrough.Log
import Walkthrough.Scenario.Basic

/-!
What a run plays on: the page that the browser shows, the disk, the log, and the feature flags that
were applied.
-/

namespace Walkthrough

structure Scene (π : Type) where
  page : π
  disk : Disk := {}
  log : List LogEntry := []
  /-- The flag sets that were applied, if they are recorded. -/
  flagSets : List (List (String × Feature)) := []
  /-- How often the cache was cleared. -/
  cacheClears : Nat := 0

namespace Scene

variable {π α : Type}

/-- A moment of a run, told by how far its log has come. Clocks are read at moments; a run says something
between any two times that it reads from one clock. -/
def moment (s : Scene π) : Nat := s.log.length

/-- Writes a message to the log. -/
def say (level : Level) (channel : Channel) (text : String) : Act (Scene π) Unit :=
  Act.modify fun s => { s with log := s.log ++ [⟨level, channel, text⟩] }

/-- A step on the page alone. -/
def onPage (step : π → Except Fault α × π) : Act (Scene π) α := fun s =>
  let (outcome, page) := step s.page
  (outcome, { s with page := page })

/-- A change of the disk, or its refusal. -/
def onDisk (path : String) (change : Disk → Except Disk.Refusal Disk) : Act (Scene π) Unit :=
  fun s =>
    match change s.disk with
    | .ok disk => (.ok (), { s with disk := disk })
    | .error refusal => (.error (.foreign (refusal.about path)), s)

/-- Makes a directory and those above it. -/
def ensureDirectory (path : String) : Act (Scene π) Unit := fun s =>
  match s.disk.ensureAll (path.length + 1) path.toList with
  | (.ok (), disk) => (.ok (), { s with disk := disk })
  | (.error (refusal, place), disk) =>
    (.error (.foreign (refusal.about (String.ofList place))), { s with disk := disk })

/-- Fails if there is a text that cannot be written. -/
def requireWritable : Option Text.Utf8.Unwritable → Act (Scene π) Unit
  | none => pure ()
  | some u => Act.fail (.foreign ⟨.encoding, u.message⟩)

/-- Writes texts one after the other to a file that is begun anew. Those before one that cannot be
written stay in the file. -/
def writeTexts (path : String) (texts : List String) : Act (Scene π) Unit := do
  let (bytes, unwritable) := Text.Utf8.encodeTexts texts
  onDisk path fun d => d.write path.toList bytes
  requireWritable unwritable

/-- Writes a text at the end of a file. -/
def appendText (path text : String) : Act (Scene π) Unit := do
  let (bytes, unwritable) := Text.Utf8.encodeTexts [text]
  onDisk path fun d => d.append path.toList bytes
  requireWritable unwritable

end Scene

end Walkthrough
