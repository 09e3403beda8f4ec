import Chartwright.Chart.Compile
import Chartwright.Proofs.Outcome

/-!
# Inversion of compilation

What a process, a deployment and an application are compiled to when they compile.
-/

namespace Chartwright

open Outcome

/-- Rules that are resolved are merged. -/
lemma MetadataRule.resolve_inv {rules : List MetadataRule} {version : Int} {process : String}
    {buckets} (h : resolve rules version process = .ok buckets) :
    buckets = mergeAll rules version process := by
  obtain ⟨_, _, h⟩ := bind_ok_iff.1 h
  cases h
  rfl

/-- The probes that a health check has for a port. -/
inductive Healthcheck.Probed (h : Healthcheck) (port : Int) : Probes → Prop where
  | copied :
    h.hasProbes = true →
    Probed h port ⟨h.liveness, h.readiness, h.startup⟩
  | nothing :
    h.hasProbes = false →
    h.path = "" →
    Probed h port .none
  | oneShot :
    h.hasProbes = false →
    h.path ≠ "" →
    h.useInRouter = false →
    Probed h port ⟨none, some (h.oneShotProbe port), none⟩
  | router :
    h.hasProbes = false →
    h.path ≠ "" →
    h.useInRouter = true →
    h.effectiveMethod = "GET" →
    h.forceRestart = false →
    Probed h port ⟨none, some (h.routerProbe port), none⟩
  | restarting :
    h.hasProbes = false →
    h.path ≠ "" →
    h.useInRouter = true →
    h.effectiveMethod = "GET" →
    h.forceRestart = true →
    Probed h port ⟨some (h.routerProbe port), some (h.routerProbe port), none⟩

/-- A health check whose probes are made has one of these. -/
lemma Healthcheck.probes_inv {h : Healthcheck} {port : Int} {p : Probes}
    (hp : h.probes port = .ok p) : h.Probed port p := by
  unfold Healthcheck.probes at hp
  split at hp
  case isTrue given =>
    cases hp
    exact .copied given
  case isFalse made =>
    rw [Bool.not_eq_true] at made
    split at hp
    case isTrue empty =>
      cases hp
      exact .nothing made empty
    case isFalse path =>
      split at hp
      case isTrue out =>
        cases hp
        exact .oneShot made path (by simpa using out)
      case isFalse used =>
        obtain ⟨get, hp⟩ := guard_ok_iff.1 hp
        rw [not_not] at get
        rw [Bool.not_eq_true, Bool.not_eq_false'] at used
        cases hr : h.forceRestart with
        | false =>
          simp only [hr, Bool.false_eq_true, if_false] at hp
          cases hp
          exact .router made path used get hr
        | true =>
          simp only [hr, if_true] at hp
          cases hp
          exact .restarting made path used get hr

/-- What a process with some probes is compiled to. -/
def ProcessSpec.definition (app : ApplicationSpec) (d : DeploymentSpec) (ports : PortSource)
    (routable : Bool) (probes : Probes) (spec : ProcessSpec) : ProcessDefinition where
  name := spec.name
  command := Hooks.command (d.manifest.bind (·.hooks)) spec.command
  units := spec.units.getD defaultUnits
  routable
  containerPorts := ports.containerPorts spec.name
  servicePorts := ports.servicePorts spec.name
  publicPort := Chartwright.publicPort (ports.servicePorts spec.name)
  env := portVariables spec.name (ports.containerPorts spec.name) ++ spec.env
  extra := {
    securityContext := spec.securityContext
    resources := spec.resources
    volumeMounts := spec.volumeMounts
    readiness := probes.readiness
    liveness := probes.liveness
    startup := probes.startup
    lifecycle := Hooks.lifecycle (d.manifest.bind (·.hooks)) }
  labels := MetadataRule.mergeAll app.labels d.version spec.name
  annotations := MetadataRule.mergeAll app.annotations d.version spec.name

/-- The port that the probes of a process are for: its first one, or else the default port. -/
def PortSource.probePort (s : PortSource) (process : String) : Int :=
  (s.containerPorts process).head?.getD s.settings.defaultPort

/-- A process that compiles has probes, and a port if it is routable. -/
lemma ProcessSpec.resolve_inv {app d ports routable} {spec : ProcessSpec} {q}
    (h : spec.resolve app d ports routable = .ok q) :
    ∃ probes,
      resolveProbes (d.manifest.bind (·.healthcheck)) (ports.probePort spec.name) = .ok probes ∧
      (routable = true → q.hasOpenPort = true) ∧
      q = spec.definition app d ports routable probes := by
  obtain ⟨probes, hp, h⟩ := bind_ok_iff.1 h
  obtain ⟨labels, hl, h⟩ := bind_ok_iff.1 h
  obtain ⟨annotations, ha, h⟩ := bind_ok_iff.1 h
  obtain ⟨hr, h⟩ := guard_bind_ok_iff.1 h
  cases MetadataRule.resolve_inv hl
  cases MetadataRule.resolve_inv ha
  cases h
  refine ⟨probes, hp, fun e => ?_, rfl⟩
  simpa [e] using hr

/-- Where the ports of the processes of a deployment come from. -/
def DeploymentSpec.portSource (d : DeploymentSpec) (settings : Settings)
    (overrides : PortOverrides) : PortSource :=
  ⟨d.manifest.bind (·.ports), d.effectivePorts overrides, settings⟩

/-- A deployment that compiles has a procfile, and its processes compile one by one. -/
lemma DeploymentSpec.compile_inv {app settings overrides} {d : DeploymentSpec} {c}
    (h : d.compile app settings overrides = .ok c) :
    ∃ procfile processes, Procfile.ofSpecs d.processes = .ok procfile ∧
      List.Forall₂ (fun spec q => spec.resolve app d (d.portSource settings overrides)
        (procfile.isRoutable spec.name) = .ok q) d.processes processes ∧
      c = ⟨d.image, d.version, processes, d.labels, d.weight, d.processes.flatMap (·.volumes),
        d.imagePullSecrets⟩ := by
  obtain ⟨procfile, hp, h⟩ := bind_ok_iff.1 h
  obtain ⟨processes, hm, h⟩ := bind_ok_iff.1 h
  cases h
  exact ⟨procfile, processes, mapError_ok_iff.1 hp, mapM_ok_iff.1 hm, rfl⟩

/-- An application that compiles has entry points, and its deployments compile one by one. -/
lemma compile_inv {input : CompileInput} {chart} (h : compile input = .ok chart) :
    ∃ ingress deployments,
      input.app.resolveIngress input.environment input.settings = .ok ingress ∧
      List.Forall₂ (fun d c => d.compile input.app input.settings input.overrides = .ok c)
        input.app.deployments deployments ∧
      chart = ⟨input.app, input.environment, deployments, ingress, input.templates⟩ := by
  obtain ⟨_, _, h⟩ := bind_ok_iff.1 h
  obtain ⟨ingress, hi, h⟩ := bind_ok_iff.1 h
  obtain ⟨deployments, hm, h⟩ := bind_ok_iff.1 h
  cases h
  exact ⟨ingress, deployments, hi, mapM_ok_iff.1 hm, rfl⟩

end Chartwright
