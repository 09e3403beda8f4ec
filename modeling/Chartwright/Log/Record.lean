import Chartwright.Document.Basic

/-!
# Log records

An event with a level and fields.
-/

namespace Chartwright

/-- The levels of records that the library writes. -/
inductive LogLevel where
  | debug | info | warning
deriving DecidableEq, Repr

/-- The word for a level. -/
def LogLevel.name : LogLevel → String
  | .debug => "debug"
  | .info => "info"
  | .warning => "warning"

/-- A record. -/
structure LogRecord where
  level : LogLevel
  event : String
  fields : Dict String Document
deriving DecidableEq, Repr

/-- The document of a record; fields come behind level and event. -/
def LogRecord.toDocument (r : LogRecord) : Document :=
  .object (Dict.merge [("level", .text r.level.name), ("event", .text r.event)] r.fields)

end Chartwright
