import Userland.Log.Logger

/-!
# The operations of the logger

What can be asked of the logger, as one type.  Only the question whether a
level is shown has an answer; its target is part of the question but has no
bearing on the answer.
-/

namespace Userland
namespace Log

/-- What can be asked of the logger. -/
inductive Operation
  | setThreshold (threshold : Threshold)
  | install
  | flush
  | isEnabled (level : Level) (target : String)
  /-- Log from within a program. -/
  | log (record : Record)
  /-- Hand a record over directly. -/
  | submit (record : Record)

namespace Operation

/-- Do what is asked; the answer is there for a question alone. -/
def perform : Operation → Run (Option Bool)
  | .setThreshold threshold => (fun _ => none) <$> Log.setThreshold threshold
  | .install => (fun _ => none) <$> Log.install
  | .flush => (fun _ => none) <$> Log.flush
  | .isEnabled level _ => some <$> Log.isEnabled level
  | .log record => (fun _ => none) <$> Log.log record
  | .submit record => (fun _ => none) <$> Log.submit record

end Operation
end Log
end Userland
