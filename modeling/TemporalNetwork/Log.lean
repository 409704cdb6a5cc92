import TemporalNetwork.Text

/-!
Log entries: a level and a text. A text with too long a number cannot be written.
-/

namespace TemporalNetwork

inductive Level where
  | debug | info | warning | error | critical
  deriving DecidableEq, Repr

namespace Level

def name : Level → String
  | .debug => "DEBUG"
  | .info => "INFO"
  | .warning => "WARNING"
  | .error => "ERROR"
  | .critical => "CRITICAL"

def rank : Level → Nat
  | .debug => 10
  | .info => 20
  | .warning => 30
  | .error => 40
  | .critical => 50

end Level

/-- What becomes of whoever logs a text that cannot be written: the fault is theirs, or they go on and
only the entry is lost. -/
inductive Logging where
  | strict | lenient
  deriving DecidableEq, Repr

structure LogEntry where
  level : Level
  text : String
  deriving DecidableEq, Repr

def levelWords : List (Text × Nat) := [
  ("CRITICAL", 50), ("FATAL", 50), ("ERROR", 40), ("WARN", 30), ("WARNING", 30), ("INFO", 20),
  ("DEBUG", 10), ("NOTSET", 0)]

def thresholdNamed? (word : Text) : Option Nat :=
  (levelWords.find? (·.1 = word)).map (·.2)

def showLog (least : Nat) (entries : List LogEntry) : String :=
  String.join ((entries.filter fun entry => least ≤ entry.level.rank).map fun entry =>
    entry.level.name ++ " | " ++ entry.text ++ "\n")

theorem thresholdNamed?_name (level : Level) : thresholdNamed? level.name = some level.rank := by
  cases level <;> rfl

end TemporalNetwork
