import Chartwright.Chart.Problem
import Chartwright.Text.Upper

/-!
# Probes

The probes of a process: the probe objects of its health check as they are, or one that is made
for the path of the check.
-/

namespace Chartwright

/-- The probes of a process. -/
structure Probes where
  liveness : Option Extension
  readiness : Option Extension
  startup : Option Extension
deriving DecidableEq, Repr

/-- No probe. -/
def Probes.none : Probes := ⟨.none, .none, .none⟩

namespace Healthcheck

/-- A number, or its default if it is zero. -/
def orDefault (n default : Int) : Int := if n = 0 then default else n

/-- The scheme of the check. -/
def effectiveScheme (h : Healthcheck) : String := if h.scheme = "" then "http" else h.scheme

/-- The method of the check, in upper case. -/
def effectiveMethod (h : Healthcheck) : String :=
  let method := Text.upper h.method
  if method = "" then "GET" else method

/-- The fields that both made probes begin with. -/
def timing (h : Healthcheck) (period : Int) : Extension := [
  ("failureThreshold", .int (orDefault h.allowedFailures 3)),
  ("periodSeconds", .int period),
  ("timeoutSeconds", .int (orDefault h.timeoutSeconds 60))]

/-- A shell script that checks the path until it succeeds once. -/
def oneShotScript (h : Healthcheck) (port : Int) : String :=
  let path := String.ofList (h.path.toList.dropWhile (· = '/'))
  let url := h.effectiveScheme ++ "://localhost:" ++ toString port ++ "/" ++ path
  "if [ ! -f /tmp/onetimeprobesuccessful ]; then curl -ksSf -X" ++ h.effectiveMethod ++
    " -o /dev/null " ++ url ++ " && touch /tmp/onetimeprobesuccessful; fi"

/-- A probe that succeeds once and stays ready. -/
def oneShotProbe (h : Healthcheck) (port : Int) : Extension :=
  h.timing 3 ++ [("exec", .object [("command", .texts ["sh", "-c", h.oneShotScript port])])]

/-- A probe that gets the path over and over. -/
def routerProbe (h : Healthcheck) (port : Int) : Extension :=
  h.timing (orDefault h.intervalSeconds 10) ++
    [("httpGet", .object [("path", .text h.path), ("port", .int port),
      ("scheme", .text (Text.upper h.effectiveScheme))])]

/-- The probes of a process that listens on a port. -/
def probes (h : Healthcheck) (port : Int) : Except CompileProblem Probes :=
  if h.hasProbes then .ok ⟨h.liveness, h.readiness, h.startup⟩
  else if h.path = "" then .ok .none
  else if !h.useInRouter then .ok ⟨.none, some (h.oneShotProbe port), .none⟩
  else if h.effectiveMethod ≠ "GET" then .error .healthcheckMethod
  else
    let probe := h.routerProbe port
    .ok ⟨if h.forceRestart then some probe else .none, some probe, .none⟩

end Healthcheck

/-- The probes of a process, which has none without a health check. -/
def resolveProbes (healthcheck : Option Healthcheck) (port : Int) : Except CompileProblem Probes :=
  healthcheck.elim (.ok .none) (·.probes port)

end Chartwright
