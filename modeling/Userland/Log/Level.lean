/-!
# Levels of log records

Five levels, from the gravest to the most talkative, and the threshold up to
which records are shown.  The threshold `off` shows none.
-/

namespace Userland
namespace Log

/-- The weight of a record. -/
inductive Level
  | error
  | warn
  | info
  | debug
  | trace
  deriving DecidableEq, Repr

namespace Level

/-- The place in the order, larger for the more talkative. -/
def rank : Level → Nat
  | error => 1
  | warn => 2
  | info => 3
  | debug => 4
  | trace => 5

def name : Level → String
  | error => "ERROR"
  | warn => "WARN"
  | info => "INFO"
  | debug => "DEBUG"
  | trace => "TRACE"

/-- The number of the terminal colour in which the level is shown. -/
def colour : Level → Nat
  | error => 31
  | warn => 93
  | info => 34
  | debug => 32
  | trace => 90

end Level

/-- The most talkative level shown, or none at all. -/
inductive Threshold
  | off
  | upTo (level : Level)
  deriving DecidableEq, Repr

namespace Threshold

/-- The place in the order of levels; `off` lies below all of them. -/
def rank : Threshold → Nat
  | off => 0
  | upTo level => level.rank

def name : Threshold → String
  | off => "OFF"
  | upTo level => level.name

/-- Whether records of the level are shown. -/
def admits (threshold : Threshold) (level : Level) : Bool :=
  level.rank ≤ threshold.rank

end Threshold

/-- The state of the logger: whether it was installed, and its threshold. -/
structure State where
  installed : Bool := false
  threshold : Threshold := .off
  deriving DecidableEq, Repr

end Log
end Userland
