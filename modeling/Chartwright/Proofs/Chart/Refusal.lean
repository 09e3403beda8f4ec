import Mathlib.Tactic.SplitIfs
import Chartwright.Chart.Compile
import Chartwright.Proofs.Log.Scope
import Chartwright.Proofs.Outcome
import Chartwright.Proofs.Procfile

/-!
# Compilation problems

When an application compiles, and which problem is reported where it does not. `Compilable` and
`Refusal` say so of the specification alone; the second has one constructor for each source of
problems, in the order in which they are looked for.
-/

namespace Chartwright

open Outcome

/-- A health check that is in the router, has a path and no probe object, and asks for another
method than `GET`. -/
structure Healthcheck.Unprobeable (h : Healthcheck) : Prop where
  no_liveness : h.liveness = none
  no_readiness : h.readiness = none
  no_startup : h.startup = none
  path : h.path ≠ ""
  in_router : h.useInRouter = true
  method_given : Text.upper h.method ≠ ""
  method_other : Text.upper h.method ≠ "GET"

/-- The health check of a deployment has no probes. -/
def DeploymentSpec.Unprobeable (d : DeploymentSpec) : Prop :=
  ∃ m h, d.manifest = some m ∧ m.healthcheck = some h ∧ h.Unprobeable

/-- The manifest of a deployment gives a process no port at all. -/
def DeploymentSpec.Closed (d : DeploymentSpec) (process : String) : Prop :=
  ∃ m table, d.manifest = some m ∧ m.ports = some table ∧ Dict.get? table process = some []

/-- The routable process of a deployment. -/
def DeploymentSpec.Routes (d : DeploymentSpec) (process : String) : Prop :=
  Procfile.Routes (d.processes.map (·.name)) process

/-- A deployment that compiles. -/
structure DeploymentSpec.Compilable (d : DeploymentSpec) : Prop where
  inhabited : d.processes ≠ []
  probeable : ¬ d.Unprobeable
  reachable : ∀ process, d.Routes process → ¬ d.Closed process

/-- How a deployment of an application is refused. -/
inductive DeploymentSpec.Refusal (app : String) (d : DeploymentSpec) : CompileProblem → Prop where
  | emptyDefinition :
    d.processes = [] →
    Refusal app d (.emptyDefinition app d.version)
  | healthcheckMethod :
    d.processes ≠ [] →
    d.Unprobeable →
    Refusal app d .healthcheckMethod
  | portsNotFound {process} :
    ¬ d.Unprobeable →
    d.Routes process →
    d.Closed process →
    Refusal app d (.portsNotFound app d.version process)

/-- The keys of some rules, of those as well that apply to nothing. -/
def MetadataRule.allKeys (rules : List MetadataRule) : List String :=
  rules.flatMap fun rule => Dict.keys rule.apply

/-- All keys of rules are well formed. -/
def CompileInput.WellKeyed (input : CompileInput) : Prop :=
  ∀ key ∈ MetadataRule.allKeys (input.app.labels ++ input.app.annotations),
    MetadataKey.isValid key = true

/-- Somebody issues certificates if there is a secure domain. -/
def CompileInput.Issued (input : CompileInput) : Prop :=
  ∀ domain ∈ input.app.ingress.domains, domain.secure = true →
    input.environment.controller.clusterIssuer ≠ ""

/-- An application that compiles. -/
structure Compilable (input : CompileInput) : Prop where
  keys : input.WellKeyed
  issued : input.Issued
  deployments : ∀ d ∈ input.app.deployments, d.Compilable

/-- How an application is refused: the first problem counts, where the keys of all rules come before
the domains, and the domains before the deployments. -/
inductive Refusal (input : CompileInput) : CompileProblem → Prop where
  | malformedKey {key} :
    IsFirst (MetadataKey.isValid · = false)
      (MetadataRule.allKeys (input.app.labels ++ input.app.annotations)) key →
    Refusal input (.malformedKey key)
  | missingIssuer {domain : Domain} :
    input.WellKeyed →
    input.environment.controller.clusterIssuer = "" →
    IsFirst (·.secure = true) input.app.ingress.domains domain →
    Refusal input (.missingIssuer input.app.name domain.name)
  | deployment {d : DeploymentSpec} {problem} :
    input.WellKeyed →
    input.Issued →
    IsFirst (¬ ·.Compilable) input.app.deployments d →
    d.Refusal input.app.name problem →
    Refusal input problem

/-! ## Processes -/

/-- A health check is refused for its method alone. -/
lemma Healthcheck.probes_error_iff {h : Healthcheck} {port : Int} {p} :
    h.probes port = .error p ↔ h.Unprobeable ∧ p = .healthcheckMethod := by
  have hm : h.effectiveMethod ≠ "GET" ↔ Text.upper h.method ≠ "" ∧ Text.upper h.method ≠ "GET" := by
    unfold effectiveMethod
    simp only
    split
    case isTrue he => simp [he]
    case isFalse he => simp [he]
  have hp : h.hasProbes = false ↔ h.liveness = none ∧ h.readiness = none ∧ h.startup = none := by
    simp [hasProbes, and_assoc]
  constructor
  · intro e
    unfold probes at e
    split_ifs at e with h1 h2 h3 h4
    · cases e
      obtain ⟨l, r, s⟩ := hp.1 (by simpa using h1)
      obtain ⟨g, o⟩ := hm.1 h4
      exact ⟨⟨l, r, s, h2, by simpa using h3, g, o⟩, rfl⟩
  · rintro ⟨u, rfl⟩
    have h1 := hp.2 ⟨u.no_liveness, u.no_readiness, u.no_startup⟩
    have h4 := hm.2 ⟨u.method_given, u.method_other⟩
    simp [probes, h1, u.path, u.in_router, h4]

/-- The probes of a deployment are refused for the method of its health check alone. -/
lemma resolveProbes_error_iff {d : DeploymentSpec} {port : Int} {p} :
    resolveProbes (d.manifest.bind (·.healthcheck)) port = .error p ↔
      d.Unprobeable ∧ p = .healthcheckMethod := by
  unfold resolveProbes DeploymentSpec.Unprobeable
  cases hm : d.manifest with
  | none => simp
  | some m =>
    cases hh : m.healthcheck with
    | none => simp [hh]
    | some h => simp [hh, Healthcheck.probes_error_iff]

/-- A deployment whose probes are made has a health check that allows it. -/
lemma probeable_of_resolveProbes {d : DeploymentSpec} {port : Int} {probes}
    (h : resolveProbes (d.manifest.bind (·.healthcheck)) port = .ok probes) :
    ¬ d.Unprobeable := by
  intro hu
  rw [resolveProbes_error_iff.2 ⟨hu, rfl⟩] at h
  cases h

/-- A process has no ports where the manifest gives it none; the image always has one. -/
lemma PortSource.configs_eq_nil_iff {s : PortSource} {process : String} :
    s.configs process = [] ↔ s.explicit.bind (Dict.get? · process) = some [] := by
  unfold configs
  split
  next configs h => simp [h]
  next h =>
    simp only [h, reduceCtorEq, iff_false]
    unfold imagePorts
    split
    case isTrue => simp
    case isFalse hn => simpa using hn

/-! ## Rules and domains -/

namespace MetadataRule

/-- Rules are refused for their first malformed key. -/
lemma checkAll_error {rules : List MetadataRule} {p} (h : checkAll rules = .error p) :
    ∃ key, IsFirst (MetadataKey.isValid · = false) (allKeys rules) key ∧ p = .malformedKey key := by
  unfold checkAll firstMalformed? at h
  split at h
  next key hk =>
    cases h
    have hf := isFirst_of_find? hk
    simp only [Bool.not_eq_true'] at hf
    exact ⟨key, hf, rfl⟩
  next => cases h

/-- Rules pass where all their keys are well formed. -/
lemma checkAll_ok_iff {rules : List MetadataRule} :
    checkAll rules = .ok () ↔ ∀ key ∈ allKeys rules, MetadataKey.isValid key = true := by
  unfold checkAll firstMalformed?
  rw [show (rules.flatMap fun rule => Dict.keys rule.apply) = allKeys rules from rfl]
  cases h : (allKeys rules).find? (!MetadataKey.isValid ·) with
  | some key =>
    have hk := List.find?_some h
    have hm := List.mem_of_find?_eq_some h
    simp only [Bool.not_eq_true'] at hk
    simp only [reduceCtorEq, false_iff, not_forall]
    exact ⟨key, hm, by simp [hk]⟩
  | none => simpa using h

/-- Rules that pass together pass apart. -/
lemma checkAll_append {rules rules' : List MetadataRule} (h : checkAll (rules ++ rules') = .ok ()) :
    checkAll rules = .ok () ∧ checkAll rules' = .ok () := by
  simp only [checkAll_ok_iff, allKeys, List.flatMap_append, List.mem_append] at h ⊢
  exact ⟨fun key hk => h key (.inl hk), fun key hk => h key (.inr hk)⟩

end MetadataRule

namespace ApplicationSpec

variable {app : ApplicationSpec} {environment : EnvironmentSpec} {settings : Settings}

/-- The domains are refused for the first secure one, where nobody issues certificates. -/
lemma resolveIngress_error {p} (h : app.resolveIngress environment settings = .error p) :
    ∃ domain, environment.controller.clusterIssuer = "" ∧
      IsFirst (·.secure = true) app.ingress.domains domain ∧
      p = .missingIssuer app.name domain.name := by
  unfold resolveIngress at h
  simp only at h
  split at h
  next domain rest hi hf =>
    cases h
    have hd : app.ingress.domains.find? (·.secure) = some domain := by
      rw [← List.head?_filter, hf]
      rfl
    exact ⟨domain, hi, isFirst_of_find? hd, rfl⟩
  next => cases h

/-- The domains are accepted where none is secure, or certificates are issued. -/
lemma resolveIngress_ok {ingress} (h : app.resolveIngress environment settings = .ok ingress) :
    ∀ domain ∈ app.ingress.domains, domain.secure = true →
      environment.controller.clusterIssuer ≠ "" := by
  intro domain hd hs hi
  unfold resolveIngress at h
  simp only [hi] at h
  split at h
  next => cases h
  next hn =>
    cases hf : app.ingress.domains.filter (·.secure) with
    | nil =>
      have hm : domain ∈ app.ingress.domains.filter (·.secure) := List.mem_filter.2 ⟨hd, hs⟩
      rw [hf] at hm
      cases hm
    | cons d ds => exact hn d ds rfl hf

end ApplicationSpec

/-! ## Deployments -/

section

variable {app : ApplicationSpec} {d : DeploymentSpec} {ports : PortSource} {routable : Bool}
  {spec : ProcessSpec}

/-- A process can be reached where its configurations are not empty. -/
lemma ProcessDefinition.hasOpenPort_eq_false_iff {p : ProcessDefinition} {process : String}
    (hc : p.containerPorts = ports.containerPorts process)
    (hs : p.servicePorts = ports.servicePorts process) :
    p.hasOpenPort = false ↔ ports.configs process = [] := by
  simp [hasOpenPort, hc, hs, PortSource.containerPorts, PortSource.servicePorts]

/-- A process is refused for the health check of its deployment, or else if it is routable and has
no port. -/
lemma ProcessSpec.resolve_error {p} (keys : MetadataRule.checkAll app.labels = .ok ())
    (keys' : MetadataRule.checkAll app.annotations = .ok ())
    (h : spec.resolve app d ports routable = .error p) :
    (d.Unprobeable ∧ p = .healthcheckMethod) ∨
      (¬ d.Unprobeable ∧ (routable = true ∧ ports.configs spec.name = []) ∧
        p = .portsNotFound app.name d.version spec.name) := by
  unfold resolve MetadataRule.resolve at h
  -- the keys are well formed, so what is left are the probes and the ports
  rw [bind_error_iff, resolveProbes_error_iff, keys, keys'] at h
  rcases h with h | ⟨probes, hp, h⟩
  · exact .inl h
  · have hn := probeable_of_resolveProbes hp
    simp only [bind, Except.bind, pure, Except.pure] at h
    split at h
    case isTrue hr =>
      cases h
      simp only [Bool.and_eq_true, Bool.not_eq_true'] at hr
      exact .inr ⟨hn, ⟨hr.1, (ProcessDefinition.hasOpenPort_eq_false_iff rfl rfl).1 hr.2⟩, rfl⟩
    case isFalse => cases h

/-- A process that is resolved has probes, and a port if it is routable. -/
lemma ProcessSpec.resolve_ok {q} (h : spec.resolve app d ports routable = .ok q) :
    ¬ d.Unprobeable ∧ ¬ (routable = true ∧ ports.configs spec.name = []) := by
  obtain ⟨probes, hp, h⟩ := bind_ok_iff.1 h
  obtain ⟨labels, -, h⟩ := bind_ok_iff.1 h
  obtain ⟨annotations, -, h⟩ := bind_ok_iff.1 h
  obtain ⟨hr, -⟩ := guard_bind_ok_iff.1 h
  refine ⟨probeable_of_resolveProbes hp, ?_⟩
  rintro ⟨rfl, hc⟩
  apply hr
  rw [(ProcessDefinition.hasOpenPort_eq_false_iff rfl rfl).2 hc]
  rfl

namespace DeploymentSpec

variable {settings : Settings} {overrides : PortOverrides} {name : String}

/-- The manifest alone decides whether a process has no port. -/
lemma closed_iff {process : String} {exposed : List ExposedPort} :
    PortSource.configs ⟨d.manifest.bind (·.ports), exposed, settings⟩ process = [] ↔
      d.Closed process := by
  rw [PortSource.configs_eq_nil_iff]
  unfold Closed
  cases hm : d.manifest with
  | none => simp
  | some m =>
    cases ht : m.ports with
    | none => simp [ht]
    | some table => simp [ht]

/-- A refused deployment does not compile. -/
lemma Refusal.not_compilable {p} (h : d.Refusal name p) : ¬ d.Compilable := by
  intro hc
  cases h with
  | emptyDefinition he => exact hc.inhabited he
  | healthcheckMethod _ hu => exact hc.probeable hu
  | portsNotFound _ hr hp => exact hc.reachable _ hr hp

/-- A deployment with a routable process is not empty. -/
lemma Routes.inhabited {process : String} (h : d.Routes process) : d.processes ≠ [] := by
  intro he
  have hp := h.present
  rw [he] at hp
  cases hp

/-- A deployment is refused in one way at most. -/
lemma Refusal.unique {p p'} (h : d.Refusal name p) (h' : d.Refusal name p') : p = p' := by
  cases h with
  | emptyDefinition he =>
    cases h' with
    | emptyDefinition => rfl
    | healthcheckMethod hn => exact absurd he hn
    | portsNotFound _ hr => exact absurd he (Routes.inhabited hr)
  | healthcheckMethod hn hu =>
    cases h' with
    | emptyDefinition he => exact absurd he hn
    | healthcheckMethod => rfl
    | portsNotFound hp => exact absurd hu hp
  | portsNotFound hn hr =>
    cases h' with
    | emptyDefinition he => exact absurd he (Routes.inhabited hr)
    | healthcheckMethod _ hu => exact absurd hu hn
    | portsNotFound _ hr' => rw [Procfile.Routes.unique hr hr']

/-- A deployment that fails to compile is refused. -/
lemma compile_error {p} (keys : MetadataRule.checkAll app.labels = .ok ())
    (keys' : MetadataRule.checkAll app.annotations = .ok ())
    (h : d.compile app settings overrides = .error p) : d.Refusal app.name p := by
  rcases bind_error_iff.1 h with h | ⟨procfile, hp, h⟩
  · obtain ⟨e, he, rfl⟩ := mapError_error_iff.1 h
    exact .emptyDefinition (Procfile.eq_nil_of_ofSpecs he)
  · have hr : d.Routes procfile.routable := Procfile.routes_of_ofSpecs (mapError_ok_iff.1 hp)
    rcases bind_error_iff.1 h with h | ⟨processes, -, h⟩
    · obtain ⟨spec, -, hf⟩ := mapM_error h
      rcases ProcessSpec.resolve_error keys keys' hf with ⟨hu, rfl⟩ | ⟨hn, ⟨hroute, hc⟩, rfl⟩
      · exact .healthcheckMethod (Routes.inhabited hr) hu
      · simp only [Procfile.isRoutable, decide_eq_true_eq] at hroute
        rw [hroute] at hr
        exact .portsNotFound hn hr (closed_iff.1 hc)
    · cases h

/-- A deployment that was compiled is one that compiles. -/
lemma compile_ok {c} (h : d.compile app settings overrides = .ok c) : d.Compilable := by
  obtain ⟨procfile, hp, h⟩ := bind_ok_iff.1 h
  obtain ⟨processes, hm, -⟩ := bind_ok_iff.1 h
  have hr : d.Routes procfile.routable := Procfile.routes_of_ofSpecs (mapError_ok_iff.1 hp)
  -- the routable process is one of those that were resolved
  obtain ⟨spec, hspec, hname⟩ := List.mem_map.1 hr.present
  obtain ⟨q, hq⟩ := mapM_ok hm spec hspec
  obtain ⟨hu, ho⟩ := ProcessSpec.resolve_ok hq
  refine ⟨Routes.inhabited hr, hu, fun process hr' hc => ho ⟨?_, ?_⟩⟩
  · simp only [Procfile.isRoutable, hname, decide_true]
  · rw [hname, hr.unique hr', closed_iff]
    exact hc

/-- Whether a deployment compiles, and how it is refused otherwise. -/
lemma compile_outcome (keys : MetadataRule.checkAll app.labels = .ok ())
    (keys' : MetadataRule.checkAll app.annotations = .ok ()) :
    ((∃ c, d.compile app settings overrides = .ok c) ↔ d.Compilable) ∧
      ∀ p, d.compile app settings overrides = .error p ↔ d.Refusal app.name p :=
  outcome_iff (fun _ => compile_ok) (fun _ => compile_error keys keys')
    (fun _ hc hr => hr.not_compilable hc) (fun _ _ => Refusal.unique)

end DeploymentSpec

end

/-! ## Applications -/

variable {input : CompileInput}

/-- A refused application does not compile. -/
lemma Refusal.not_compilable {p} (h : Refusal input p) : ¬ Compilable input := by
  intro hc
  cases h with
  | malformedKey hf =>
    have hk := hc.keys _ hf.mem
    rw [hf.holds] at hk
    cases hk
  | missingIssuer _ hi hf => exact hc.issued _ hf.mem hf.holds hi
  | deployment _ _ hf => exact hf.holds (hc.deployments _ hf.mem)

/-- A malformed key is none of keys that are well formed. -/
lemma CompileInput.WellKeyed.not_isFirst {key : String} (h : input.WellKeyed) :
    ¬ IsFirst (MetadataKey.isValid · = false)
      (MetadataRule.allKeys (input.app.labels ++ input.app.annotations)) key := by
  intro hf
  have hk := h _ hf.mem
  rw [hf.holds] at hk
  cases hk

/-- An application is refused in one way at most. -/
lemma Refusal.unique {p p'} (h : Refusal input p) (h' : Refusal input p') : p = p' := by
  cases h with
  | malformedKey hf =>
    cases h' with
    | malformedKey hf' => rw [hf.unique hf']
    | missingIssuer hk => exact absurd hf hk.not_isFirst
    | deployment hk => exact absurd hf hk.not_isFirst
  | missingIssuer hk hi hf =>
    cases h' with
    | malformedKey hf' => exact absurd hf' hk.not_isFirst
    | missingIssuer _ _ hf' => rw [hf.unique hf']
    | deployment _ hs => exact absurd hi (hs _ hf.mem hf.holds)
  | deployment hk hs hf hr =>
    cases h' with
    | malformedKey hf' => exact absurd hf' hk.not_isFirst
    | missingIssuer _ hi hf' => exact absurd hi (hs _ hf'.mem hf'.holds)
    | deployment _ _ hf' hr' =>
      rw [hf.unique hf'] at hr
      exact hr.unique hr'

/-- An application that fails to compile is refused. -/
lemma compile_error {p} (h : compile input = .error p) : Refusal input p := by
  rcases bind_error_iff.1 h with h | ⟨_, hk, h⟩
  · obtain ⟨key, hf, rfl⟩ := MetadataRule.checkAll_error h
    exact .malformedKey hf
  · have keys : input.WellKeyed := MetadataRule.checkAll_ok_iff.1 hk
    rcases bind_error_iff.1 h with h | ⟨ingress, hi, h⟩
    · obtain ⟨domain, hn, hf, rfl⟩ := ApplicationSpec.resolveIngress_error h
      exact .missingIssuer keys hn hf
    · have issued : input.Issued := ApplicationSpec.resolveIngress_ok hi
      rcases bind_error_iff.1 h with h | ⟨deployments, -, h⟩
      · -- with the keys checked, a deployment fails to compile where it is not one that compiles
        obtain ⟨hl, ha⟩ := MetadataRule.checkAll_append hk
        obtain ⟨d, hf, hd⟩ := mapM_error h
        simp only [exists_error_iff, (DeploymentSpec.compile_outcome hl ha).1] at hf
        exact .deployment keys issued hf (DeploymentSpec.compile_error hl ha hd)
      · cases h

/-- An application that was compiled is one that compiles. -/
lemma compile_ok {chart} (h : compile input = .ok chart) : Compilable input := by
  obtain ⟨_, hk, h⟩ := bind_ok_iff.1 h
  obtain ⟨ingress, hi, h⟩ := bind_ok_iff.1 h
  obtain ⟨deployments, hm, -⟩ := bind_ok_iff.1 h
  refine ⟨MetadataRule.checkAll_ok_iff.1 hk, ApplicationSpec.resolveIngress_ok hi, fun d hd => ?_⟩
  obtain ⟨c, hc⟩ := mapM_ok hm d hd
  exact DeploymentSpec.compile_ok hc

/-- An application fails to compile just as it is refused. -/
lemma compile_error_iff {p} : compile input = .error p ↔ Refusal input p :=
  (outcome_iff (fun _ => compile_ok) (fun _ => compile_error) (fun _ hc hr => hr.not_compilable hc)
    (fun _ _ => Refusal.unique)).2 p

/-- Compiling with records gives the same as compiling without, and unbinds what it binds. -/
lemma compileLogged_gives (input : CompileInput) : (compileLogged input).Gives (compile input) := by
  refine Logged.Gives.scoped ?_ (show ["app", "environment"].Nodup by decide)
  cases compile input with
  | error problem => exact Logged.gives_pure _
  | ok chart => exact (Logged.gives_write _).bind (Logged.gives_pure _)

/-- Compiling with records comes to the same as compiling without. -/
lemma compileLogged_value (input : CompileInput) (context : LogContext) :
    (compileLogged input context).1 = compile input :=
  (compileLogged_gives input context).1

/-- An application compiles where nothing in its specification is against it, and else the problem
that comes first is reported, whatever is bound to the records. -/
theorem compilation_outcome (input : CompileInput) (context : LogContext) :
    ((∃ chart, (compileLogged input context).1 = .ok chart) ↔ Compilable input) ∧
      ∀ problem, (compileLogged input context).1 = .error problem ↔ Refusal input problem := by
  rw [compileLogged_value]
  exact outcome_iff (fun _ => compile_ok) (fun _ => compile_error)
    (fun _ hc hr => hr.not_compilable hc) (fun _ _ => Refusal.unique)

end Chartwright
