import Chartwright.Proofs.Chart.Inversion
import Chartwright.Proofs.Chart.Refusal
import Chartwright.Proofs.Chart.Values
import Chartwright.Proofs.Rollout.Validity

/-!
# Pods of compiled processes

What a specification says of the pods of a process is passed on to the values as it is, and what it
leaves empty has no key there. Probes have two sources: the probe objects of a health check are
copied as soon as there is one, and otherwise a probe is made for its path. So next to a probe
object nothing else in the health check counts.
-/

namespace Chartwright

/-- A mapping is passed on as it is, unless it is empty. -/
def Passed (given : Option Extension) (found : Option Document) : Prop :=
  ∀ value, found = some value ↔ ∃ fields, given = some fields ∧ fields ≠ [] ∧ value = .object fields

/-- A list of mappings is passed on as it is, unless it is empty. -/
def PassedAll (given : List Extension) (found : Option Document) : Prop :=
  ∀ value, found = some value ↔ given ≠ [] ∧ value = .list (given.map .object)

/-- The numbers of a probe by their keys. -/
def timingKeys : List String := ["failureThreshold", "periodSeconds", "timeoutSeconds"]

/-- All numbers of a probe are positive. -/
def Timed (probe : Document) : Prop :=
  ∀ key ∈ timingKeys, ∃ n, probe.get? key = some (.int n) ∧ 1 ≤ n

/-- The probes that are made for the path of a health check. -/
structure PathProbes (h : Healthcheck) (extra : Document) : Prop where
  readiness : ∃ probe, extra.get? "readinessProbe" = some probe ∧ Timed probe
  startup : extra.get? "startupProbe" = none
  liveness : (extra.get? "livenessProbe").isSome ↔ h.useInRouter = true ∧ h.forceRestart = true
  liveness_eq : ∀ probe, extra.get? "livenessProbe" = some probe →
    extra.get? "readinessProbe" = some probe

/-- What a process with some health check, if any, passes on to its pods. -/
structure PodFields (check : Option Healthcheck) (spec : ProcessSpec) (extra : Document) :
    Prop where
  securityContext : Passed spec.securityContext (extra.get? "securityContext")
  resources : Passed spec.resources (extra.get? "resourceRequirements")
  volumeMounts : PassedAll spec.volumeMounts (extra.get? "volumeMounts")
  copied : ∀ h, check = some h → h.hasProbes = true →
    Passed h.readiness (extra.get? "readinessProbe") ∧
      Passed h.liveness (extra.get? "livenessProbe") ∧ Passed h.startup (extra.get? "startupProbe")
  made : ∀ h, check = some h → h.hasProbes = false → h.path ≠ "" → PathProbes h extra
  unprobed : (∀ h, check = some h → h.hasProbes = false ∧ h.path = "") →
    ∀ key ∈ probeKeys, extra.get? key = none

/-- The values of a chart have what is specified of the pods of all processes, and the volumes of
their processes one after the other. -/
def PodsKept (app : ApplicationSpec) (values : Document) : Prop :=
  ∃ deployments, (values.get? "app").bind (·.get? "deployments") = some (.list deployments) ∧
    List.Forall₂ (fun d values =>
      PassedAll (d.processes.flatMap (·.volumes))
          ((values.get? "extra").bind (·.get? "volumes")) ∧
        ∃ processes, values.get? "processes" = some (.list processes) ∧
          List.Forall₂ (fun spec values => ∃ extra, values.get? "extra" = some extra ∧
            PodFields (d.manifest.bind (·.healthcheck)) spec extra) d.processes processes)
      app.deployments deployments

/-- A health check without the check of its path where that does not count. -/
def Healthcheck.effective (h : Healthcheck) : Healthcheck :=
  if h.hasProbes then ⟨h.liveness, h.readiness, h.startup, "", "", "", 0, 0, 0, false, false⟩ else h

/-- A deployment with what counts of its health check. -/
def DeploymentSpec.effective (d : DeploymentSpec) : DeploymentSpec :=
  { d with manifest := d.manifest.map fun m =>
    { m with healthcheck := m.healthcheck.map (·.effective) } }

/-! ## Passing on -/

lemma passed_of_eq {given : Option Extension} {found : Option Document}
    (h : found = (given.filter (· ≠ [])).map .object) : Passed given found := by
  intro value
  rw [h, Option.map_eq_some_iff]
  constructor
  · rintro ⟨fields, hf, rfl⟩
    obtain ⟨hg, inhabited⟩ := Option.filter_eq_some_iff.1 hf
    exact ⟨fields, hg, of_decide_eq_true inhabited, rfl⟩
  · rintro ⟨fields, hg, inhabited, rfl⟩
    exact ⟨fields, Option.filter_eq_some_iff.2 ⟨hg, decide_eq_true inhabited⟩, rfl⟩

lemma passedAll_of_eq {given : List Extension} {found : Option Document}
    (h : found = if given = [] then none else some (.list (given.map .object))) :
    PassedAll given found := by
  intro value
  rw [h]
  split
  case isTrue empty => simp [empty]
  case isFalse inhabited => simp [inhabited, eq_comm]

/-! ## Probes -/

namespace Healthcheck

/-- A number that is not negative is positive where zero stands for a default. -/
lemma one_le_orDefault {n default : Int} (hn : 0 ≤ n) (hd : 1 ≤ default) :
    1 ≤ orDefault n default := by
  unfold orDefault
  split
  case isTrue => exact hd
  case isFalse => omega

lemma get?_timing (h : Healthcheck) (period : Int) (rest : Extension) :
    (Document.object (h.timing period ++ rest)).get? "failureThreshold" =
        some (.int (orDefault h.allowedFailures 3)) ∧
      (Document.object (h.timing period ++ rest)).get? "periodSeconds" = some (.int period) ∧
      (Document.object (h.timing period ++ rest)).get? "timeoutSeconds" =
        some (.int (orDefault h.timeoutSeconds 60)) := by
  refine ⟨?_, ?_, ?_⟩
  all_goals simp [timing, Document.get?_object, Dict.get?]

/-- The numbers of a probe that is made for a health check that passes are positive. -/
lemma timed {h : Healthcheck} (admitted : Healthcheck.shape.Admits h) {period : Int}
    (hp : 1 ≤ period) (rest : Extension) : Timed (.object (h.timing period ++ rest)) := by
  obtain ⟨-, timeout, failures⟩ := Healthcheck.admits_iff.1 admitted
  obtain ⟨threshold, seconds, limit⟩ := h.get?_timing period rest
  simp only [Timed, timingKeys, List.forall_mem_cons]
  exact ⟨⟨_, threshold, one_le_orDefault failures (by decide)⟩, ⟨_, seconds, hp⟩,
    ⟨_, limit, one_le_orDefault timeout (by decide)⟩, List.forall_mem_nil _⟩

lemma timed_oneShotProbe {h : Healthcheck} (admitted : Healthcheck.shape.Admits h) (port : Int) :
    Timed (.object (h.oneShotProbe port)) :=
  timed admitted (by decide) _

lemma timed_routerProbe {h : Healthcheck} (admitted : Healthcheck.shape.Admits h) (port : Int) :
    Timed (.object (h.routerProbe port)) :=
  timed admitted (one_le_orDefault (Healthcheck.admits_iff.1 admitted).1 (by decide)) _

end Healthcheck

/-- The probes that are made for a path, where they are passed on. -/
lemma PodExtra.pathProbes {h : Healthcheck} {port : Int} {x : PodExtra}
    (admitted : Healthcheck.shape.Admits h) (made : h.hasProbes = false) (path : h.path ≠ "")
    (probed : h.Probed port ⟨x.liveness, x.readiness, x.startup⟩) : PathProbes h x.toDocument := by
  obtain ⟨-, -, -, readiness, liveness, startup⟩ := x.get?_toDocument
  generalize x.toDocument = extra at readiness liveness startup ⊢
  obtain ⟨context, resources, mounts, r, l, s, lifecycle⟩ := x
  cases probed with
  | copied given => simp [given] at made
  | nothing _ empty => exact absurd empty path
  | oneShot _ _ out =>
    have absent : extra.get? "livenessProbe" = none := liveness
    refine ⟨⟨_, readiness, h.timed_oneShotProbe admitted port⟩, startup, ?_, ?_⟩
    · simp [absent, out]
    · simp [absent]
  | router _ _ _ _ stays =>
    have absent : extra.get? "livenessProbe" = none := liveness
    refine ⟨⟨_, readiness, h.timed_routerProbe admitted port⟩, startup, ?_, ?_⟩
    · simp [absent, stays]
    · simp [absent]
  | restarting _ _ used _ restarts =>
    have same : extra.get? "livenessProbe" = extra.get? "readinessProbe" :=
      liveness.trans readiness.symm
    have found : extra.get? "readinessProbe" = some (.object (h.routerProbe port)) := readiness
    refine ⟨⟨_, found, h.timed_routerProbe admitted port⟩, startup, ?_, ?_⟩
    · simp [same, found, used, restarts]
    · simp [same]

/-! ## Processes -/

/-- A process that compiles passes its pod fields on. -/
lemma ProcessSpec.podFields {app d ports routable} {spec : ProcessSpec} {q}
    (admitted : ∀ h, d.manifest.bind (·.healthcheck) = some h → Healthcheck.shape.Admits h)
    (h : spec.resolve app d ports routable = .ok q) :
    PodFields (d.manifest.bind (·.healthcheck)) spec q.extra.toDocument := by
  obtain ⟨probes, hp, -, rfl⟩ := ProcessSpec.resolve_inv h
  obtain ⟨context, resources, mounts, readiness, liveness, startup⟩ :=
    PodExtra.get?_toDocument (spec.definition app d ports routable probes).extra
  generalize d.manifest.bind (·.healthcheck) = check at admitted hp ⊢
  constructor
  case securityContext => exact passed_of_eq context
  case resources => exact passed_of_eq resources
  case volumeMounts => exact passedAll_of_eq mounts
  case copied =>
    rintro h rfl given
    cases Healthcheck.probes_inv hp with
    | copied => exact ⟨passed_of_eq readiness, passed_of_eq liveness, passed_of_eq startup⟩
    | nothing made | oneShot made | router made | restarting made => simp [given] at made
  case made =>
    rintro h rfl made path
    exact PodExtra.pathProbes (admitted h rfl) made path (Healthcheck.probes_inv hp)
  case unprobed =>
    intro unprobed
    have none : probes = .none := by
      cases check with
      | none => exact (Except.ok.inj hp).symm
      | some h =>
        obtain ⟨made, empty⟩ := unprobed h rfl
        cases Healthcheck.probes_inv hp with
        | copied given => simp [given] at made
        | nothing => rfl
        | oneShot _ path | router _ path | restarting _ path => exact absurd empty path
    cases none
    simp only [probeKeys, List.forall_mem_cons]
    exact ⟨readiness, liveness, startup, List.forall_mem_nil _⟩

/-! ## Applications -/

/-- A deployment that compiles passes its volumes on, and its processes their pod fields. -/
lemma DeploymentSpec.podFields {app settings overrides} {d : DeploymentSpec} {c}
    (admitted : d.Admitted) (h : d.compile app settings overrides = .ok c) :
    PassedAll (d.processes.flatMap (·.volumes))
        ((c.toDocument.get? "extra").bind (·.get? "volumes")) ∧
      ∃ processes, c.toDocument.get? "processes" = some (.list processes) ∧
        List.Forall₂ (fun spec values => ∃ extra, values.get? "extra" = some extra ∧
          PodFields (d.manifest.bind (·.healthcheck)) spec extra) d.processes processes := by
  have checks : ∀ h, d.manifest.bind (·.healthcheck) = some h → Healthcheck.shape.Admits h := by
    intro h hc
    obtain ⟨m, hm, hc⟩ := Option.bind_eq_some_iff.1 hc
    exact (Manifest.admits_iff.1 (admitted.manifest m hm)).2.1 h hc
  obtain ⟨procfile, processes, -, hr, rfl⟩ := DeploymentSpec.compile_inv h
  obtain ⟨items, volumes⟩ := CompiledDeployment.get?_toDocument ⟨d.image, d.version, processes,
    d.labels, d.weight, d.processes.flatMap (·.volumes), d.imagePullSecrets⟩
  refine ⟨passedAll_of_eq volumes, _, items, List.forall₂_map_right_iff.2 ?_⟩
  refine hr.imp fun spec q hq => ⟨q.extra.toDocument, ?_, ProcessSpec.podFields checks hq⟩
  exact q.get?_toDocument.2.2.2.2

/-! ## Health checks -/

/-- The probes of a health check come from what counts of it. -/
lemma Healthcheck.probes_effective (h : Healthcheck) (port : Int) :
    h.effective.probes port = h.probes port := by
  unfold effective
  split
  case isTrue given =>
    have given' : (⟨h.liveness, h.readiness, h.startup, "", "", "", 0, 0, 0, false, false⟩ :
        Healthcheck).hasProbes = true := given
    rw [probes, probes, if_pos given, if_pos given']
  case isFalse => rfl

lemma resolveProbes_effective (check : Option Healthcheck) (port : Int) :
    resolveProbes (check.map (·.effective)) port = resolveProbes check port := by
  cases check with
  | none => rfl
  | some h => exact h.probes_effective port

section

variable (app : ApplicationSpec) (d : DeploymentSpec)

lemma ProcessSpec.resolve_effective (ports : PortSource) (routable : Bool) (spec : ProcessSpec) :
    spec.resolve app d.effective ports routable = spec.resolve app d ports routable := by
  have hooks : d.effective.manifest.bind (·.hooks) = d.manifest.bind (·.hooks) := by
    rw [DeploymentSpec.effective, Option.bind_map]
    rfl
  have check : d.effective.manifest.bind (·.healthcheck) =
      (d.manifest.bind (·.healthcheck)).map (·.effective) := by
    rw [DeploymentSpec.effective, Option.bind_map, Option.map_bind]
    rfl
  unfold resolve
  rw [hooks, check]
  simp only [resolveProbes_effective]
  rfl

lemma DeploymentSpec.compile_effective (settings : Settings) (overrides : PortOverrides) :
    d.effective.compile app settings overrides = d.compile app settings overrides := by
  have ports : d.effective.manifest.bind (·.ports) = d.manifest.bind (·.ports) := by
    rw [DeploymentSpec.effective, Option.bind_map]
    rfl
  unfold compile
  rw [ports]
  simp only [ProcessSpec.resolve_effective]
  rfl

end

/-- Deployments with the same effective health checks are compiled to the same. -/
lemma forall₂_compile_effective {app settings overrides} {ds ds' : List DeploymentSpec} {cs}
    (same : ds'.map (·.effective) = ds.map (·.effective))
    (h : List.Forall₂ (fun d c => d.compile app settings overrides = .ok c) ds cs) :
    List.Forall₂ (fun d c => d.compile app settings overrides = .ok c) ds' cs := by
  have left : List.Forall₂ (fun d c => d.compile app settings overrides = .ok c)
      (ds.map (·.effective)) cs := by
    rw [List.forall₂_map_left_iff]
    exact h.imp fun d c hc => (d.compile_effective app settings overrides).trans hc
  rw [← same, List.forall₂_map_left_iff] at left
  exact left.imp fun d c hc => (d.compile_effective app settings overrides).symm.trans hc

/-- An application compiles to the same values with other deployments whose health checks differ in
nothing that counts. -/
lemma compile_values_effective {input : CompileInput} {chart : Chart}
    {deployments : List DeploymentSpec}
    (same : deployments.map (·.effective) = input.app.deployments.map (·.effective))
    (h : compile input = .ok chart) :
    ∃ chart', compile { input with app := { input.app with deployments } } = .ok chart' ∧
      chart'.values = chart.values := by
  obtain ⟨_, keys, h⟩ := Outcome.bind_ok_iff.1 h
  obtain ⟨ingress, hi, h⟩ := Outcome.bind_ok_iff.1 h
  obtain ⟨compiled, hd, h⟩ := Outcome.bind_ok_iff.1 h
  cases h
  have hd' := Outcome.mapM_ok_iff.2 (forall₂_compile_effective same (Outcome.mapM_ok_iff.1 hd))
  exact ⟨_, Outcome.bind_ok_iff.2 ⟨_, keys, Outcome.bind_ok_iff.2 ⟨ingress, hi,
    Outcome.bind_ok_iff.2 ⟨compiled, hd', rfl⟩⟩⟩, rfl⟩

/-- In the values of a chart the pods of all processes have what is specified of them. With other
health checks that differ next to probe objects alone, the values would be the same. -/
theorem pods_kept {input : CompileInput} {context : LogContext} {chart : Chart}
    (admitted : ApplicationSpec.shape.Admits input.app)
    (compiled : (compileLogged input context).1 = .ok chart) :
    PodsKept input.app chart.values ∧
      ∀ deployments, deployments.map (·.effective) = input.app.deployments.map (·.effective) →
        ∃ chart', (compileLogged { input with app := { input.app with deployments } } context).1 =
            .ok chart' ∧ chart'.values = chart.values := by
  rw [compileLogged_value] at compiled
  constructor
  · obtain ⟨ingress, deployments, -, hd, rfl⟩ := compile_inv compiled
    have app := ApplicationSpec.admits_iff.1 admitted
    refine ⟨_, Chart.values_deployments _, List.forall₂_map_right_iff.2 ?_⟩
    refine ((List.forall₂_and_left _ _).2 ⟨app.deployments, hd⟩).imp fun d c h => ?_
    exact DeploymentSpec.podFields (DeploymentSpec.admits_iff.1 h.1) h.2
  · intro deployments same
    rw [compileLogged_value]
    exact compile_values_effective same compiled

/-- A shop with three deployments: the first has probe objects next to a path, the second a path
that the router checks, and the third no health check. -/
def tendedShop (path : String) : CompileInput where
  app := { Canary.shop with
    deployments := [
      { Canary.shopDeployment 1 [] with
        processes := [
          ⟨"web", [], none, [], some [("limits", .object [("memory", .text "1Gi")])],
            [[("name", .text "data")]], [[("name", .text "data"), ("mountPath", .text "/data")]],
            some []⟩,
          ⟨"worker", [], none, [], none, [[("name", .text "cache")]], [], none⟩]
        manifest := some ⟨none, some ⟨some [("periodSeconds", .int 0)], none, some [], path, "ftp",
          "POST", 1, 2, 3, true, true⟩, none⟩ },
      { Canary.shopDeployment 2 ["web"] with
        manifest := some ⟨none, some ⟨none, none, none, "/health", "", "", 0, 0, 0, true, true⟩,
          none⟩ },
      Canary.shopDeployment 3 ["web"]] }
  environment := ⟨"shops", "", ⟨"", "", .nginx, ""⟩, none⟩
  templates := []
  overrides := []
  settings := .default

/-- The pods of the shop, which are the same without the path next to the probe objects. -/
theorem tendedShop_pods : ∃ chart,
    ApplicationSpec.shape.Admits (tendedShop "/old").app ∧
      (compileLogged (tendedShop "/old") []).1 = .ok chart ∧
      PodsKept (tendedShop "/old").app chart.values ∧
      ∃ chart', (compileLogged (tendedShop "") []).1 = .ok chart' ∧
        chart'.values = chart.values := by
  have readable : ∀ d ∈ (tendedShop "/old").app.deployments,
      DeploymentSpec.shape.decode (DeploymentSpec.shape.encode d) = .ok d := by decide +kernel
  have admitted : ApplicationSpec.shape.Admits (tendedShop "/old").app :=
    ApplicationSpec.admits_iff.2
      (Canary.shop_admitted.update (fun d hd => ⟨_, readable d hd⟩) Canary.shop_admitted.canary)
  obtain ⟨chart, compiled⟩ := Outcome.exists_ok_of_toBool
    (show (compileLogged (tendedShop "/old") []).1.toBool = true by decide +kernel)
  obtain ⟨pods, others⟩ := pods_kept admitted compiled
  have same : (tendedShop "").app.deployments.map (·.effective) =
      (tendedShop "/old").app.deployments.map (·.effective) := by decide +kernel
  exact ⟨chart, admitted, compiled, pods, others _ same⟩

end Chartwright
