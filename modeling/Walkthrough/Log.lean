/-!
Log messages: how grave they are, which part of the program they come from, and their text.
-/

namespace Walkthrough

/-- How grave a message is; the graver, the greater. -/
abbrev Level := Int

namespace Level

def debug : Level := 10
def info : Level := 20
def warning : Level := 30
def error : Level := 40
def critical : Level := 50

/-- The name of a level, or its number if it has none. -/
def name (level : Level) : String :=
  if level == debug then "DEBUG"
  else if level == info then "INFO"
  else if level == warning then "WARNING"
  else if level == error then "ERROR"
  else if level == critical then "CRITICAL"
  else if level == 0 then "NOTSET"
  else "Level " ++ toString level

end Level

/-- The parts of the program that write to the log. -/
inductive Channel
  | lookup
  | perform
  | run
  | flags
  | evidence
  | browser
  | session
  deriving DecidableEq, Repr

/-- The name that a part has in the log. -/
def Channel.name : Channel → String
  | .lookup => "smartui.runner.resolver"
  | .perform => "smartui.runner.strategies"
  | .run => "smartui.runner.scenario_runner"
  | .flags => "smartui.runner.feature_flags"
  | .evidence => "smartui.runner.artifact_collector"
  | .browser => "smartui.browser.playwright_driver"
  | .session => "smartui.browser.session"

structure LogEntry where
  level : Level
  channel : Channel
  text : String
  deriving DecidableEq, Repr

end Walkthrough
