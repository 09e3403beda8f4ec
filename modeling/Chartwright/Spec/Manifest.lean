import Chartwright.Schema.Shape

/-!
# Deployment manifests

How the processes of a deployment are run: restart hooks, health checks and explicit ports.
-/

namespace Chartwright

open Schema

/-- The limits of a port that may be left out, which is written as zero. -/
def portBounds : List Bound := [.atLeast 0, .below 65536]

/-- A port that an image declares. -/
structure ExposedPort where
  port : Int
  protocol : String
deriving DecidableEq, Repr

/-- The shape of an exposed port. -/
def ExposedPort.shape : Shape ExposedPort :=
  .record "ExposedPort" true
    (.required "port" (.integer [.above 0, .below 65536]) <|
      .withDefault "protocol" (.text .any) "TCP" .done)
    (fun (port, protocol, ()) => .ok ⟨port, protocol⟩)
    (fun p => (p.port, p.protocol, ()))

/-- An explicit port of a process: `port` on the service, `targetPort` in the container; zero
where one is left out. -/
structure PortConfig where
  name : String
  protocol : String
  port : Int
  targetPort : Int
deriving DecidableEq, Repr

/-- The shape of a port configuration. -/
def PortConfig.shape : Shape PortConfig :=
  .record "PortConfig" true
    (.withDefault "name" (.text .any) "" <|
      .withDefault "protocol" (.text .any) "" <|
      .withDefault "port" (.integer portBounds) 0 <|
      .aliased "target_port" "targetPort" (.integer portBounds) 0 .done)
    (fun (name, protocol, port, targetPort, ()) => .ok ⟨name, protocol, port, targetPort⟩)
    (fun c => (c.name, c.protocol, c.port, c.targetPort, ()))

/-- Commands run before and after a restart. -/
structure Hooks where
  before : List String
  after : List String
deriving DecidableEq, Repr

/-- The shape of the commands around a restart. -/
def Hooks.restartShape : Shape Hooks :=
  .record "RestartHooks" true
    (.withDefault "before" (.list (.text .any)) [] <|
      .withDefault "after" (.list (.text .any)) [] .done)
    (fun (before, after, ()) => .ok ⟨before, after⟩)
    (fun h => (h.before, h.after, ()))

/-- The shape of hooks: those of a restart are the only ones. -/
def Hooks.shape : Shape Hooks :=
  .record "Hooks" true (.withDefault "restart" restartShape ⟨[], []⟩ .done)
    (fun (restart, ()) => .ok restart) (fun h => (h, ()))

/-- A mapping whose content is not looked into. -/
abbrev Extension := Dict String Document

/-- The health check of a deployment: probe objects that are copied, or a check of a path. -/
structure Healthcheck where
  liveness : Option Extension
  readiness : Option Extension
  startup : Option Extension
  path : String
  scheme : String
  method : String
  intervalSeconds : Int
  timeoutSeconds : Int
  allowedFailures : Int
  useInRouter : Bool
  forceRestart : Bool
deriving DecidableEq, Repr

/-- The shape of a health check. -/
def Healthcheck.shape : Shape Healthcheck :=
  .record "HealthcheckConfig" true
    (.aliased "liveness_probe" "livenessProbe" (.optional .free) none <|
      .aliased "readiness_probe" "readinessProbe" (.optional .free) none <|
      .aliased "startup_probe" "startupProbe" (.optional .free) none <|
      .withDefault "path" (.text .any) "" <|
      .withDefault "scheme" (.text .any) "" <|
      .withDefault "method" (.text .any) "" <|
      .withDefault "interval_seconds" (.integer [.atLeast 0]) 0 <|
      .withDefault "timeout_seconds" (.integer [.atLeast 0]) 0 <|
      .withDefault "allowed_failures" (.integer [.atLeast 0]) 0 <|
      .withDefault "use_in_router" .flag false <|
      .withDefault "force_restart" .flag false .done)
    (fun (liveness, readiness, startup, path, scheme, method, interval, timeout, failures, router,
        restart, ()) =>
      .ok ⟨liveness, readiness, startup, path, scheme, method, interval, timeout, failures, router,
        restart⟩)
    (fun h => (h.liveness, h.readiness, h.startup, h.path, h.scheme, h.method, h.intervalSeconds,
      h.timeoutSeconds, h.allowedFailures, h.useInRouter, h.forceRestart, ()))

/-- Whether a probe object is given, be it empty. -/
def Healthcheck.hasProbes (h : Healthcheck) : Bool :=
  h.liveness.isSome || h.readiness.isSome || h.startup.isSome

/-- The shape of the ports of one process. -/
def PortConfig.listShape : Shape (List PortConfig) :=
  .record "ProcessPortsConfig" true (.withDefault "ports" (.list PortConfig.shape) [] .done)
    (fun (ports, ()) => .ok ports) (fun ports => (ports, ()))

/-- The shape of the ports of all processes, by process name. -/
def PortConfig.tableShape : Shape (Dict String (List PortConfig)) :=
  .record "KubernetesConfig" true (.withDefault "processes" (.table PortConfig.listShape) [] .done)
    (fun (processes, ()) => .ok processes) (fun processes => (processes, ()))

/-- How the processes of a deployment are run. -/
structure Manifest where
  hooks : Option Hooks
  healthcheck : Option Healthcheck
  ports : Option (Dict String (List PortConfig))
deriving DecidableEq, Repr

/-- The shape of a manifest. -/
def Manifest.shape : Shape Manifest :=
  .record "DeploymentManifest" true
    (.withDefault "hooks" (.optional Hooks.shape) none <|
      .withDefault "healthcheck" (.optional Healthcheck.shape) none <|
      .withDefault "kubernetes" (.optional PortConfig.tableShape) none .done)
    (fun (hooks, healthcheck, ports, ()) => .ok ⟨hooks, healthcheck, ports⟩)
    (fun m => (m.hooks, m.healthcheck, m.ports, ()))

end Chartwright
