import ServiceContracts.Text.Case
import ServiceContracts.Text.Quoted

/-!
# Log levels

An event is shown if its level is at least the one that was asked for. Levels are asked for by name
in any case, with a few names more than there are levels; an unknown name asks for warnings. Two
names stand for the layout of messages, and are refused.

* `Level.named?` : the level of an event that is told under a name;
* `Level.threshold` : the least rank that is shown for a name;
* `Level.isShown` : which events are shown.
-/

namespace ServiceContracts.Log

/-- How serious an event is. -/
inductive Level where
  | debug
  | info
  | warning
  | error
  | critical
deriving DecidableEq, Repr

/-- Why a name cannot be asked for. -/
inductive NoLevel where
  /-- It stands for the layout of a message. -/
  | layout
  /-- It stands for the table of layouts. -/
  | layouts
deriving DecidableEq, Repr

/-- The wording of a name that cannot be asked for. -/
def NoLevel.message : NoLevel → String
  | layout => Text.quoted "%(levelname)s:%(name)s:%(message)s"
  | layouts => "unhashable type: 'dict'"

namespace Level

/-- The name of a level. -/
def name : Level → String
  | debug => "debug"
  | info => "info"
  | warning => "warning"
  | error => "error"
  | critical => "critical"

/-- All levels, the least serious one first. -/
def all : List Level := [debug, info, warning, error, critical]

/-- The names under which events may be told besides those of the levels. -/
def otherNames : List (String × Level) :=
  [("msg", info), ("warn", warning), ("exception", error), ("fatal", critical)]

def named? (told : String) : Option Level :=
  (all.find? fun l => l.name == told).or (otherNames.lookup told)

/-- How serious a level is. -/
def rank : Level → Nat
  | debug => 10
  | info => 20
  | warning => 30
  | error => 40
  | critical => 50

/-- The names by which levels are asked for, with the least rank that is shown. -/
def thresholds : List (String × Nat) :=
  [("CRITICAL", 50), ("FATAL", 50), ("ERROR", 40), ("WARNING", 30), ("WARN", 30), ("INFO", 20),
    ("DEBUG", 10), ("NOTSET", 0)]

def threshold (asked : String) : Except NoLevel Nat :=
  let asked := Text.upper asked
  if asked = "BASIC_FORMAT" then .error .layout
  else if asked = "_STYLES" then .error .layouts
  else .ok ((thresholds.lookup asked).getD warning.rank)

def isShown (least : Nat) (l : Level) : Bool := least ≤ l.rank

end Level

end ServiceContracts.Log
