import Mathlib.Data.List.Nodup
import Chartwright.Proofs.Schema.Admission
import Chartwright.Settings
import Chartwright.Spec.Application

/-!
# Admitted specifications

Which applications and settings pass validation. Every default passes its own check, and no field
can be taken for another.
-/

namespace Chartwright

open Schema

/-! ## Ports -/

/-- An exposed port lies within the bounds of ports. -/
lemma ExposedPort.admits_iff {p : ExposedPort} :
    ExposedPort.shape.Admits p ↔ 0 < p.port ∧ p.port < 65536 := by
  obtain ⟨port, protocol⟩ := p
  rw [shape, Shape.admits_record_iff (by simp) (by decide)]
  simp [Bound.holds]

/-- A configured port lies within the bounds of ports, or is zero. -/
lemma PortConfig.admits_iff {c : PortConfig} :
    PortConfig.shape.Admits c ↔
      (0 ≤ c.port ∧ c.port < 65536) ∧ 0 ≤ c.targetPort ∧ c.targetPort < 65536 := by
  obtain ⟨name, protocol, port, target⟩ := c
  rw [shape, Shape.admits_record_iff (by simp [portBounds, Bound.holds]) (by decide)]
  simp [portBounds, Bound.holds]

/-- The ports of a process are admitted one by one. -/
lemma PortConfig.admits_list_iff {ports : List PortConfig} :
    PortConfig.listShape.Admits ports ↔ ∀ c ∈ ports, PortConfig.shape.Admits c := by
  rw [listShape, Shape.admits_record_iff (by simp) (by decide)]
  simp

/-- The ports of all processes are admitted process by process. -/
lemma PortConfig.admits_table_iff {table : Dict String (List PortConfig)} :
    PortConfig.tableShape.Admits table ↔ ∀ e ∈ table, PortConfig.listShape.Admits e.2 := by
  rw [tableShape, Shape.admits_record_iff (by simp) (by decide)]
  simp

/-! ## Manifests -/

/-- The numbers of a health check are not negative; its probe objects are not looked into. -/
lemma Healthcheck.admits_iff {h : Healthcheck} :
    Healthcheck.shape.Admits h ↔
      0 ≤ h.intervalSeconds ∧ 0 ≤ h.timeoutSeconds ∧ 0 ≤ h.allowedFailures := by
  obtain ⟨liveness, readiness, startup, path, scheme, method, interval, timeout, failures, router,
    restart⟩ := h
  have hf := @Shape.admits_optional_iff _ .free rfl
  rw [shape, Shape.admits_record_iff (by simp [hf, Bound.holds]) (by decide)]
  simp [hf, Bound.holds]

/-- A manifest is admitted where its parts are. -/
lemma Manifest.admits_iff {m : Manifest} :
    Manifest.shape.Admits m ↔ (∀ hooks ∈ m.hooks, Hooks.shape.Admits hooks) ∧
      (∀ check ∈ m.healthcheck, Healthcheck.shape.Admits check) ∧
      ∀ ports ∈ m.ports, PortConfig.tableShape.Admits ports := by
  obtain ⟨hooks, check, ports⟩ := m
  have hh := @Shape.admits_optional_iff _ Hooks.shape rfl
  have hc := @Shape.admits_optional_iff _ Healthcheck.shape rfl
  have hp := @Shape.admits_optional_iff _ PortConfig.tableShape rfl
  rw [shape, Shape.admits_record_iff (by simp [hh, hc, hp]) (by decide)]
  simp [hh, hc, hp]

/-! ## Deployments -/

/-- A process has a name, and no negative number of units. -/
lemma ProcessSpec.admits_iff {p : ProcessSpec} :
    ProcessSpec.shape.Admits p ↔ p.name ≠ "" ∧ (∀ units ∈ p.units, 0 ≤ units) ∧
      ∀ b ∈ p.env, Binding.variableShape.Admits b := by
  obtain ⟨name, command, units, env, resources, volumes, mounts, context⟩ := p
  have hu := @Shape.admits_optional_iff _ (.integer [.atLeast 0]) rfl
  have hf := @Shape.admits_optional_iff _ .free rfl
  rw [shape, Shape.admits_record_iff (by simp [hu, hf]) (by decide)]
  simp [hu, hf, Bound.holds]

/-- A share of the traffic lies between none and all. -/
lemma admits_weight_iff {weight : Int} :
    weightShape.Admits weight ↔ 0 ≤ weight ∧ weight ≤ 100 := by
  rw [weightShape, Shape.admits_record_iff (by simp [Bound.holds]) (by decide)]
  simp [Bound.holds]

/-- A name is repeated where it occurs twice or was seen before. -/
lemma firstRepeated?_eq_none_iff {seen names : List String} :
    firstRepeated? seen names = none ↔ names.Nodup ∧ ∀ name ∈ names, name ∉ seen := by
  induction names generalizing seen with
  | nil => simp [firstRepeated?]
  | cons name names ih =>
    unfold firstRepeated?
    split
    case isTrue h => simp [h]
    case isFalse h =>
      rw [ih, List.nodup_cons]
      simp only [List.mem_cons, not_or, forall_eq_or_imp, h, not_false_eq_true, true_and]
      constructor
      · rintro ⟨hn, hs⟩
        exact ⟨⟨fun hm => (hs name hm).1 rfl, hn⟩, fun m hm => (hs m hm).2⟩
      · rintro ⟨⟨hm, hn⟩, hs⟩
        refine ⟨hn, fun m hm' => ⟨?_, hs m hm'⟩⟩
        rintro rfl
        exact hm hm'

/-- The names of the processes of a deployment are checked for being distinct. -/
lemma DeploymentSpec.checkNames_ok_iff {d e : DeploymentSpec} :
    d.checkNames = .ok e ↔ e = d ∧ (d.processes.map (·.name)).Nodup := by
  have h := @firstRepeated?_eq_none_iff [] (d.processes.map (·.name))
  simp only [List.not_mem_nil, not_false_eq_true, implies_true, and_true] at h
  unfold checkNames
  rw [← h]
  cases firstRepeated? [] (d.processes.map (·.name)) with
  | none => simp [eq_comm (a := e)]
  | some name => simp

/-- What passes as a deployment. -/
structure DeploymentSpec.Admitted (d : DeploymentSpec) : Prop where
  image : d.image ≠ ""
  version : 0 < d.version
  processes : ∀ p ∈ d.processes, ProcessSpec.shape.Admits p
  names : (d.processes.map (·.name)).Nodup
  manifest : ∀ m ∈ d.manifest, Manifest.shape.Admits m
  labels : ∀ b ∈ d.labels, Binding.labelShape.Admits b
  weight : 0 ≤ d.weight ∧ d.weight ≤ 100
  exposedPorts : ∀ p ∈ d.exposedPorts, ExposedPort.shape.Admits p

/-- Deployments pass where their parts do and the names of their processes are distinct. -/
lemma DeploymentSpec.admits_iff {d : DeploymentSpec} :
    DeploymentSpec.shape.Admits d ↔ d.Admitted := by
  have hm := @Shape.admits_optional_iff _ Manifest.shape rfl
  rw [shape, Shape.admits_record_iff (by simp [hm, admits_weight_iff]) (by decide)]
  constructor
  · rintro ⟨⟨image, version, processes, manifest, labels, weight, exposed, secrets, ⟨⟩⟩, h, hd⟩
    obtain ⟨rfl, hn⟩ := checkNames_ok_iff.1 hd
    obtain ⟨hi, hv, hp, hm', hl, hw, he, -⟩ := h
    simp only [Shape.admits_text_iff, TextRule.check_nonEmpty_iff] at hi
    simp only [Shape.admits_integer_iff, List.mem_singleton, forall_eq, Bound.holds,
      decide_eq_true_eq] at hv
    simp only [Shape.admits_list_iff] at hp hl he
    exact ⟨hi, hv, hp, hn, hm.1 hm', hl, admits_weight_iff.1 hw, he⟩
  · rintro ⟨hi, hv, hp, hn, hm', hl, hw, he⟩
    refine ⟨(d.image, d.version, d.processes, d.manifest, d.labels, d.weight, d.exposedPorts,
      d.imagePullSecrets, ()), ?_, checkNames_ok_iff.2 ⟨rfl, hn⟩⟩
    simpa [hm, admits_weight_iff, Bound.holds] using ⟨hi, hv, hp, hm', hl, hw, he⟩

/-! ## Applications -/

/-- What passes as a rollout; any mapping to integers passes as its target. -/
structure CanarySpec.Admitted (c : CanarySpec) : Prop where
  steps : 0 ≤ c.steps ∧ c.steps ≤ 100
  stepWeight : 0 ≤ c.stepWeight ∧ c.stepWeight ≤ 100
  stepInterval : Duration.inRange c.stepInterval.microseconds.natAbs = true
  currentStep : 0 ≤ c.currentStep

/-- Rollouts pass where their numbers lie within the bounds. -/
lemma CanarySpec.admits_iff {c : CanarySpec} : CanarySpec.shape.Admits c ↔ c.Admitted := by
  have hm := @Shape.admits_optional_iff _ .moment rfl
  obtain ⟨steps, weight, interval, next, current, active, started, target⟩ := c
  rw [shape, Shape.admits_record_iff (by
    simp [hm, Bound.holds, Duration.inRange]) (by decide)]
  constructor
  · intro h
    obtain ⟨hs, hw, hi, hc⟩ : (0 ≤ steps ∧ steps ≤ 100) ∧ (0 ≤ weight ∧ weight ≤ 100) ∧
        Duration.inRange interval.microseconds.natAbs = true ∧ 0 ≤ current := by
      simpa [hm, Bound.holds] using h
    exact ⟨hs, hw, hi, hc⟩
  · rintro ⟨hs, hw, hi, hc⟩
    simpa [hm, Bound.holds] using ⟨hs, hw, hi, hc⟩

/-- What passes as an application. -/
structure ApplicationSpec.Admitted (app : ApplicationSpec) : Prop where
  name_length : 1 ≤ app.name.length ∧ app.name.length ≤ 40
  name_pattern : applicationNamePattern.accepts app.name.toList = true
  description : app.description.length ≤ 140
  deployments : ∀ d ∈ app.deployments, DeploymentSpec.shape.Admits d
  env : ∀ b ∈ app.env, Binding.variableShape.Admits b
  ingress : IngressSpec.shape.Admits app.ingress
  labels : ∀ r ∈ app.labels, MetadataRule.shape.Admits r
  annotations : ∀ r ∈ app.annotations, MetadataRule.shape.Admits r
  canary : CanarySpec.shape.Admits app.canary

/-- Applications pass where their parts do. -/
lemma ApplicationSpec.admits_iff {app : ApplicationSpec} :
    ApplicationSpec.shape.Admits app ↔ app.Admitted := by
  have ho := @Shape.admits_optional_iff _ (.text .any) rfl
  have hi : IngressSpec.shape.Admits ⟨false, []⟩ := ⟨.mapping [], rfl⟩
  have hc : CanarySpec.shape.Admits .none := ⟨.mapping [], rfl⟩
  obtain ⟨name, id, version, description, deployments, env, ingress, secret, labels, annotations,
    account, canary⟩ := app
  rw [shape, Shape.admits_record_iff (by
    simp [ho, hi, hc, TextRule.check_ok_iff]) (by decide)]
  constructor
  · intro h
    obtain ⟨⟨h1, h2, h3⟩, h4, h5, h6, h7, h8, h9, h10⟩ : (1 ≤ name.length ∧ name.length ≤ 40 ∧
        applicationNamePattern.accepts name.toList = true) ∧ description.length ≤ 140 ∧
        (∀ d ∈ deployments, DeploymentSpec.shape.Admits d) ∧
        (∀ b ∈ env, Binding.variableShape.Admits b) ∧ IngressSpec.shape.Admits ingress ∧
        (∀ r ∈ labels, MetadataRule.shape.Admits r) ∧
        (∀ r ∈ annotations, MetadataRule.shape.Admits r) ∧ CanarySpec.shape.Admits canary := by
      simpa [ho, TextRule.check_ok_iff] using h
    exact ⟨⟨h1, h2⟩, h3, h4, h5, h6, h7, h8, h9, h10⟩
  · rintro ⟨⟨h1, h2⟩, h3, h4, h5, h6, h7, h8, h9, h10⟩
    simpa [ho, TextRule.check_ok_iff] using ⟨⟨h1, h2, h3⟩, h4, h5, h6, h7, h8, h9, h10⟩

/-! ## Settings -/

/-- What passes as settings. -/
structure Settings.Admitted (s : Settings) : Prop where
  defaultPort : 0 < s.defaultPort ∧ s.defaultPort < 65536
  defaultPortName : s.defaultPortName ≠ ""
  logLevel : Settings.logLevelPattern.accepts s.logLevel.toList = true
  logFormat : Settings.logFormatPattern.accepts s.logFormat.toList = true

/-- Settings pass where each choice does. -/
lemma Settings.admits_iff {s : Settings} : Settings.shape.Admits s ↔ s.Admitted := by
  have hd : default.Admitted := ⟨by decide, by decide, by decide, by decide⟩
  obtain ⟨port, portName, domain, version, description, level, format⟩ := s
  rw [shape, Shape.admits_record_iff (by
    simp [Bound.holds, hd.defaultPort, hd.defaultPortName, hd.logLevel, hd.logFormat]) (by decide)]
  constructor
  · intro h
    obtain ⟨hp, hn, hl, hf⟩ : (0 < port ∧ port < 65536) ∧ portName ≠ "" ∧
        logLevelPattern.accepts level.toList = true ∧
        logFormatPattern.accepts format.toList = true := by
      simpa [Bound.holds] using h
    exact ⟨hp, hn, hl, hf⟩
  · rintro ⟨hp, hn, hl, hf⟩
    simpa [Bound.holds] using ⟨hp, hn, hl, hf⟩

end Chartwright
