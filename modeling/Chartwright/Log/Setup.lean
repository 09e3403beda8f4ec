import Chartwright.Log.Context
import Chartwright.Text.Quoted
import Chartwright.Text.Upper

/-!
# Log setup

How records are written: from which level on, in which form, and what is stamped on them.
-/

namespace Chartwright

/-- The stages that a record passes. -/
inductive LogStage where
  | timestamp | context | level | loggerName | serviceName | stackInfo
  | exceptionText | json | exceptionInfo | console
deriving DecidableEq, Repr

/-- The name of a stage. -/
def LogStage.name : LogStage → String
  | .timestamp => "TimeStamper"
  | .context => "merge_contextvars"
  | .level => "add_log_level"
  | .loggerName => "add_logger_name"
  | .serviceName => "ServiceNameStamper"
  | .stackInfo => "StackInfoRenderer"
  | .exceptionText => "ExceptionRenderer"
  | .json => "JSONRenderer"
  | .exceptionInfo => "set_exc_info"
  | .console => "ConsoleRenderer"

/-- The severities by their names in upper case. -/
def severities : List (String × Nat) := [
  ("CRITICAL", 50), ("FATAL", 50), ("ERROR", 40), ("WARN", 30), ("WARNING", 30), ("INFO", 20),
  ("DEBUG", 10), ("NOTSET", 0)]

/-- The severity of a name in any case. -/
def severity? (name : String) : Option Nat := severities.lookup (Text.upper name)

/-- What is asked of the log. Without a choice of the form, a terminal gets lines for people and
everything else JSON. -/
structure LogRequest where
  level : String
  json : Option Bool
  service : String
  timestamps : Bool
  terminal : Bool
deriving DecidableEq, Repr

/-- How records are written. -/
structure LogSetup where
  severity : Nat
  json : Bool
  service : String
  timestamps : Bool
deriving DecidableEq, Repr

namespace LogSetup

/-- The setup that is asked for; the name of the level may be unknown. -/
def ofRequest (q : LogRequest) : Except String LogSetup :=
  match severity? q.level with
  | some severity => .ok ⟨severity, q.json.getD !q.terminal, q.service, q.timestamps⟩
  | none => .error ("unknown log level: " ++ Text.quoted q.level)

/-- The stages in order. -/
def stages (s : LogSetup) : List LogStage :=
  (if s.timestamps then [.timestamp] else []) ++
    [.context, .level, .loggerName, .serviceName, .stackInfo] ++
    if s.json then [.exceptionText, .json] else [.exceptionInfo, .console]

/-- The level of a method of a logger; two methods have another level's name. -/
def methodLevel (method : String) : String :=
  match method with
  | "warn" => "warning"
  | "fatal" => "critical"
  | level => level

/-- The severity of a method of a logger. -/
def methodSeverity (method : String) : Nat := (severity? method).getD 0

/-- Whether records of a method are written. -/
def admits (s : LogSetup) (method : String) : Bool := s.severity ≤ methodSeverity method

/-- The fields of a record that is written at a time. What a call gives wins over what is bound,
level and logger are always stamped on, and the service is unless the record names one. -/
def recordFields (s : LogSetup) (time : String) (context : LogContext)
    (logger method event : String) (fields : Dict String Document) : Dict String Document :=
  let d := Dict.merge (Dict.merge context fields) [("event", .text event)]
  let d := if s.timestamps then Dict.put d "timestamp" (.text time) else d
  let d := Dict.merge d [("level", .text (methodLevel method)), ("logger", .text logger)]
  if Dict.contains d "service.name" then d else Dict.put d "service.name" (.text s.service)

end LogSetup

end Chartwright
