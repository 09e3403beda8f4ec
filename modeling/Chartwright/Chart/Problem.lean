import Chartwright.Procfile

/-!
# Problems

Why an application cannot be compiled, and how that is reported.
-/

namespace Chartwright

/-- Why an application cannot be compiled. -/
inductive CompileProblem where
  /-- A rule has a key that no label or annotation can have. -/
  | malformedKey (key : String)
  /-- A domain is secure, and nobody issues certificates. -/
  | missingIssuer (app domain : String)
  /-- A deployment has no process. -/
  | emptyDefinition (app : String) (version : Int)
  /-- A health check of the router uses another method than `GET`. -/
  | healthcheckMethod
  /-- The routable process has no port. -/
  | portsNotFound (app : String) (version : Int) (process : String)
deriving DecidableEq, Repr

/-- The report of a problem. -/
def CompileProblem.report : CompileProblem → Report
  | .malformedKey key => .ofKind .malformedKey ("malformed metadata key: " ++ Text.quoted key)
  | .missingIssuer app domain =>
    (Report.ofKind .missingIssuer "").withContext [("app", .text app), ("domain", .text domain)]
  | .emptyDefinition app version =>
    (Report.ofKind .emptyDefinition "").withContext
      [("app", .text app), ("deployment_version", .int version)]
  | .healthcheckMethod => .ofKind .healthcheck ""
  | .portsNotFound app version process =>
    (Report.ofKind .portsNotFound "").withContext
      [("app", .text app), ("deployment_version", .int version), ("process", .text process)]

end Chartwright
