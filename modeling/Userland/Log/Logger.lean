import Userland.Log.Record
import Userland.Terminal

/-!
# The logger

The logger prints the line of every record that its threshold admits.  A place
in a program that logs asks the threshold before it hands a record over, and
the logger asks again; both read the same state, so a record is shown or not
shown by its level alone.

Installing sets the threshold to `off`, once: a second time it finds the logger
in place and leaves the threshold as it is.
-/

namespace Userland
namespace Log

/-- Put the logger in place, unless it is there. -/
def install : Run Unit :=
  Run.modifyLogging fun state =>
    if state.installed then state else { installed := true, threshold := .off }

/-- Set the most talkative level that is shown. -/
def setThreshold (threshold : Threshold) : Run Unit :=
  Run.modifyLogging fun state => { state with threshold := threshold }

/-- Whether records of the level are shown. -/
def isEnabled (level : Level) : Run Bool := do
  return (← Run.logging).threshold.admits level

/-- Hand a record to the logger, which prints it if the threshold admits it. -/
def submit (record : Record) : Run Unit := do
  if ← isEnabled record.level then
    Terminal.print record.line

/-- Log a record from within a program: it reaches the logger only if the
threshold admits it and a logger was installed. -/
def log (record : Record) : Run Unit := do
  let state ← Run.logging
  if state.installed && state.threshold.admits record.level then
    submit record

/-- Wait for lines in transit.  Every line has gone out when it was logged. -/
def flush : Run Unit :=
  pure ()

end Log
end Userland
