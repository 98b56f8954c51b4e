import Walkthrough.Act
import Walkthrough.Disk.Basic
import Walkthrough.Log
import Walkthrough.Settings.Basic
import Walkthrough.Text.Blank
import Walkthrough.Text.LetterCase

/-!
Setting up the log of the program: how grave a message has to be, and where messages go. The first
set-up that succeeds stays; one that fails keeps what it did up to its failure. A message takes as many
lines of a sink as its text has.
-/

namespace Walkthrough

/-- The log of the whole program; its parts have names below this one. -/
def logName : String := "smartui"

/-- A message for the log. -/
structure LogRecord where
  level : Level
  logger : String
  text : String
  deriving DecidableEq, Repr

/-- Where messages go. -/
inductive Sink
  | console
  /-- A file that is begun anew at midnight. -/
  | daily (path : String)
  /-- A file of warnings and graver messages. -/
  | warnings (path : String)
  deriving DecidableEq, Repr

namespace Sink

/-- The kind of a sink as it is shown. -/
def kind : Sink → String
  | console => "StreamHandler"
  | daily _ => "TimedRotatingFileHandler"
  | warnings _ => "FileHandler"

/-- The least grave messages that a sink takes. -/
def level : Sink → Level
  | warnings _ => Level.warning
  | _ => 0

end Sink

/-- A line of the console or of a log file. -/
inductive LogLine
  /-- The first line of a message, behind its level and its logger. -/
  | entry (record : LogRecord)
  /-- A line of a text alone. -/
  | bare (text : String)
  deriving DecidableEq, Repr

/-- The lines of a text, at least one. -/
def LogLine.ofText (text : String) : List LogLine :=
  (Text.lines (text.toList ++ ['\n'])).map fun line => .bare (String.ofList line)

/-- The lines of a message. -/
def LogRecord.lines (r : LogRecord) : List LogLine :=
  match LogLine.ofText r.text with
  | .bare first :: more => .entry { r with text := first } :: more
  | lines => lines

structure Logging where
  level : Level := Level.debug
  sinks : List Sink := []
  /-- Whether a set-up succeeded. -/
  configured : Bool := false
  disk : Disk := {}
  console : List LogLine := []
  /-- The lines of files, with the path of the file. -/
  written : List (String × LogLine) := []

/-- The levels by their names. -/
def Level.names : List (String × Level) :=
  [("DEBUG", Level.debug), ("INFO", Level.info), ("WARN", Level.warning),
    ("WARNING", Level.warning), ("ERROR", Level.error), ("CRITICAL", Level.critical),
    ("FATAL", Level.critical), ("NOTSET", 0)]

/-- The form of a message where none is set up. -/
def plainForm : String := "%(levelname)s:%(name)s:%(message)s"

/-- The styles that forms are written in, as they are shown. -/
def shownStyles : String :=
  "\x7b'%': (<class 'logging.PercentStyle'>, '" ++ plainForm ++
  "'), '\x7b': (<class 'logging.StrFormatStyle'>, " ++
  "'\x7blevelname\x7d:\x7bname\x7d:\x7bmessage\x7d'), '$': (<class 'logging.StringTemplateStyle'>, " ++
  "'$\x7blevelname\x7d:$\x7bname\x7d:$\x7bmessage\x7d')\x7d"

/-- Words that name something else than a level, and what comes of it. -/
def Level.misnomers : List (String × Foreign) :=
  [("BASIC_FORMAT", ⟨.value, "Unknown level: " ++ Text.quoted plainForm⟩),
    ("_STYLES", ⟨.type, "Level not an integer or a valid string: " ++ shownStyles⟩)]

/-- The level that a word names in either letter case; a word that names none stands for the level of
plain information. -/
def Level.ofWord (word : String) : Except Foreign Level :=
  let name := Text.inCapitals word
  match Assoc.get? name Level.misnomers with
  | some failure => .error failure
  | none => .ok ((Assoc.get? name Level.names).getD Level.info)

namespace Logging

def addSink (sink : Sink) : Act Logging Unit :=
  Act.modify fun s => { s with sinks := s.sinks ++ [sink] }

/-- Makes the directory of the log files. -/
def ensureDirectory (directory : String) : Act Logging Unit := fun s =>
  match s.disk.ensureAll (directory.length + 1) directory.toList with
  | (.ok (), disk) => (.ok (), { s with disk := disk })
  | (.error (refusal, place), disk) =>
    (.error (.foreign (refusal.about (String.ofList place))), { s with disk := disk })

/-- Opens a log file at its end. -/
def openFile (path : String) : Act Logging Unit := fun s =>
  match s.disk.append path.toList [] with
  | .ok disk => (.ok (), { s with disk := disk })
  | .error refusal => (.error (.foreign (refusal.about path)), s)

/-- The path of a log file in a directory that is seen from a working directory. -/
def filePath (cwd directory name : String) : String :=
  String.ofList (Path.absolute (Path.join cwd.toList (Path.join directory.toList name.toList)))

/-- Adds the sinks of a directory. -/
def addFiles (directory : String) : Act Logging Unit := do
  ensureDirectory directory
  let daily := filePath (← Act.get).disk.workingDirectory directory "log.log"
  openFile daily
  addSink (.daily daily)
  let warnings := filePath (← Act.get).disk.workingDirectory directory "error.log"
  openFile warnings
  addSink (.warnings warnings)

/-- Sets the log up: a level and a directory of log files that are not given are those of the
settings, and no files are written where the directory is empty. -/
def configure (settings : Settings) (level directory : Option String) : Act Logging Unit := do
  if (← Act.get).configured then return
  let word := match level with
    | none | some "" => settings.logLevel
    | some word => word
  let level ← Act.lift ((Level.ofWord word).mapError Fault.foreign)
  Act.modify fun s => { s with level := level }
  addSink .console
  let directory := directory.getD settings.logDirectory
  if directory ≠ "" then addFiles directory
  Act.modify fun s => { s with configured := true }

/-- Whether a part of the program writes to its log. -/
def isPart (logger : String) : Bool :=
  logger == logName || (logName ++ ".").toList.isPrefixOf logger.toList

/-- The least grave messages that are taken from a logger. -/
def threshold (s : Logging) (logger : String) : Level :=
  if isPart logger && s.level ≠ 0 then s.level else Level.warning

/-- Passes a message to a sink. -/
def deliver (r : LogRecord) (s : Logging) (sink : Sink) : Logging :=
  if r.level < sink.level then s
  else match sink with
    | .console => { s with console := s.console ++ r.lines }
    | .daily path | .warnings path => { s with written := s.written ++ r.lines.map (path, ·) }

/-- Logs a message. Where nothing takes it, the console shows its text if it is grave. -/
def log (r : LogRecord) (s : Logging) : Logging :=
  if r.level ≤ 0 || r.level < s.threshold r.logger then s
  else if isPart r.logger && !s.sinks.isEmpty then s.sinks.foldl (deliver r) s
  else if Level.warning ≤ r.level then { s with console := s.console ++ LogLine.ofText r.text }
  else s

end Logging

end Walkthrough
