import Chartwright.Proofs.Chart.Inversion
import Chartwright.Proofs.Chart.Refusal
import Chartwright.Proofs.Chart.Values
import Chartwright.Proofs.Rollout.Run

/-!
# Isolation of deployments

What a deployment is compiled to depends on the deployment, the ports of its image, the settings and
the rules that apply to its processes. Whatever else two applications and their environments differ
in does not show.
-/

namespace Chartwright

open Outcome

/-- The values of the deployment at a place in the values of a chart. -/
def Document.deploymentValues? (values : Document) (i : Nat) : Option Document :=
  match (values.get? "app").bind (·.get? "deployments") with
  | some (.list deployments) => deployments[i]?
  | _ => none

/-- Two applications have the same rules for a process, apart from those that do not apply to it. -/
structure ApplicationSpec.SameRules (app app' : ApplicationSpec) (version : Int)
    (process : String) : Prop where
  labels : app.labels.filter (·.applies version process) =
    app'.labels.filter (·.applies version process)
  annotations : app.annotations.filter (·.applies version process) =
    app'.annotations.filter (·.applies version process)

/-- Two compilations are about the same deployment at a place, and agree on all that concerns it. -/
structure CompileInput.AgreeAt (input input' : CompileInput) (i : Nat) (d : DeploymentSpec) :
    Prop where
  settings : input.settings = input'.settings
  left : input.app.deployments[i]? = some d
  right : input'.app.deployments[i]? = some d
  ports : d.effectivePorts input.overrides = d.effectivePorts input'.overrides
  rules : ∀ p ∈ d.processes, input.app.SameRules input'.app d.version p.name

/-! ## Rules -/

/-- A rule that does not apply leaves the buckets as they are. -/
lemma MetadataRule.mergeInto_of_not_applies {rule : MetadataRule} {version : Int}
    {process : String} (h : rule.applies version process = false) (b : Buckets) :
    mergeInto version process b rule = b := by
  unfold applies at h
  unfold mergeInto
  split
  case h_1 kind hk =>
    simp only [hk, Option.isSome_some, Bool.true_and] at h
    rw [h, if_neg Bool.false_ne_true]
  case h_2 => rfl

/-- Only the rules that apply are merged. -/
lemma MetadataRule.mergeAll_filter (rules : List MetadataRule) (version : Int)
    (process : String) :
    mergeAll (rules.filter (·.applies version process)) version process =
      mergeAll rules version process := by
  unfold mergeAll
  rw [List.foldl_filter]
  congr 1
  funext b rule
  split
  case isTrue => rfl
  case isFalse h =>
    rw [mergeInto_of_not_applies (by simpa using h)]

/-! ## Processes and deployments -/

section

variable {app app' : ApplicationSpec} {d : DeploymentSpec} {ports : PortSource} {routable : Bool}

/-- The definition of a process depends on the application by the rules that apply to it. -/
lemma ProcessSpec.definition_congr {spec : ProcessSpec} (probes : Probes)
    (h : app.SameRules app' d.version spec.name) :
    spec.definition app d ports routable probes = spec.definition app' d ports routable probes := by
  have labels : MetadataRule.mergeAll app.labels d.version spec.name =
      MetadataRule.mergeAll app'.labels d.version spec.name := by
    rw [← MetadataRule.mergeAll_filter, h.labels, MetadataRule.mergeAll_filter]
  have annotations : MetadataRule.mergeAll app.annotations d.version spec.name =
      MetadataRule.mergeAll app'.annotations d.version spec.name := by
    rw [← MetadataRule.mergeAll_filter, h.annotations, MetadataRule.mergeAll_filter]
  unfold definition
  rw [labels, annotations]

/-- A process is resolved to the same definition where the same rules apply. -/
lemma ProcessSpec.resolve_congr {spec : ProcessSpec} {q q'}
    (h : app.SameRules app' d.version spec.name)
    (hq : spec.resolve app d ports routable = .ok q)
    (hq' : spec.resolve app' d ports routable = .ok q') : q = q' := by
  obtain ⟨probes, hp, -, rfl⟩ := ProcessSpec.resolve_inv hq
  obtain ⟨probes', hp', -, rfl⟩ := ProcessSpec.resolve_inv hq'
  rw [hp] at hp'
  cases hp'
  exact ProcessSpec.definition_congr probes h

/-- A deployment is compiled to the same where its image has the same ports and the same rules apply
to its processes. -/
lemma DeploymentSpec.compile_congr {settings overrides overrides'} {c c'}
    (hp : d.effectivePorts overrides = d.effectivePorts overrides')
    (hr : ∀ p ∈ d.processes, app.SameRules app' d.version p.name)
    (hc : d.compile app settings overrides = .ok c)
    (hc' : d.compile app' settings overrides' = .ok c') : c = c' := by
  obtain ⟨procfile, processes, hf, hm, rfl⟩ := DeploymentSpec.compile_inv hc
  obtain ⟨procfile', processes', hf', hm', rfl⟩ := DeploymentSpec.compile_inv hc'
  rw [hf] at hf'
  cases hf'
  have source : d.portSource settings overrides = d.portSource settings overrides' := by
    rw [portSource, portSource, hp]
  rw [← source] at hm'
  rw [forall₂_unique hm hm' fun spec hs _ _ hq hq' => ProcessSpec.resolve_congr (hr spec hs) hq hq']

end

/-! ## Charts -/

/-- The values of a deployment at a place are those of what it is compiled to. -/
lemma deploymentValues?_values (c : Chart) (i : Nat) :
    c.values.deploymentValues? i = c.deployments[i]?.map (·.toDocument) := by
  rw [Document.deploymentValues?, Chart.values_deployments]
  exact List.getElem?_map ..

/-- Two charts have the same values for a deployment that both have at a place, where they were
compiled with the same settings and agree on its ports and on the rules that apply to its processes.
-/
theorem deployment_noninterference {input input' : CompileInput} {context context' : LogContext}
    {chart chart' : Chart} {i : Nat} {d : DeploymentSpec} (agree : input.AgreeAt input' i d)
    (compiled : (compileLogged input context).1 = .ok chart)
    (compiled' : (compileLogged input' context').1 = .ok chart') :
    ∃ values, chart.values.deploymentValues? i = some values ∧
      chart'.values.deploymentValues? i = some values := by
  rw [compileLogged_value] at compiled compiled'
  obtain ⟨ingress, deployments, -, hd, rfl⟩ := compile_inv compiled
  obtain ⟨ingress', deployments', -, hd', rfl⟩ := compile_inv compiled'
  obtain ⟨c, hi, hc⟩ := forall₂_getElem? hd agree.left
  obtain ⟨c', hi', hc'⟩ := forall₂_getElem? hd' agree.right
  rw [← agree.settings] at hc'
  have same : c = c' := DeploymentSpec.compile_congr agree.ports agree.rules hc hc'
  refine ⟨c.toDocument, ?_, ?_⟩
  · rw [deploymentValues?_values, hi]
    rfl
  · rw [deploymentValues?_values, hi', same]
    rfl

/-- A rule that labels pods with its key. -/
def podLabel (version : Int) (process key : String) : MetadataRule :=
  ⟨.of .pod, [(key, "yes")], version, process⟩

/-- The shop, with rules for one of its deployments and for all. -/
def labelledShop : CompileInput where
  app := { Canary.shop with
    labels := [podLabel 1 "" "first", podLabel 0 "web" "front", podLabel 2 "worker" "back"] }
  environment := ⟨"shops", "", ⟨"", "", .nginx, ""⟩, none⟩
  templates := []
  overrides := []
  settings := .default

/-- Another application that has the second deployment of the shop behind one of its own, with
domains, variables and rules of its own, and ports from elsewhere for its own deployment. -/
def labelledStall : CompileInput where
  app := { Canary.shop with
    name := "stall"
    deployments := [Canary.shopDeployment 3 ["clock"], Canary.shopDeployment 2 ["web", "worker"]]
    env := [⟨"OPEN", "yes"⟩]
    ingress := ⟨true, [⟨"stall.example", true, ""⟩]⟩
    labels := [podLabel 0 "web" "front", podLabel 3 "" "third", podLabel 2 "worker" "back"]
    annotations := [podLabel 0 "clock" "ticks"] }
  environment := ⟨"stalls", "", ⟨"", "10.0.0.1", .traefik, "issuer"⟩, some 3⟩
  templates := [("service.yaml", "kind: Service")]
  overrides := [(3, [⟨9000, "tcp"⟩])]
  settings := .default

/-- The shop and the stall have the same values for the deployment that they share. -/
theorem stall_noninterference : ∃ chart chart' values,
    labelledShop.AgreeAt labelledStall 1 (Canary.shopDeployment 2 ["web", "worker"]) ∧
      (compileLogged labelledShop []).1 = .ok chart ∧
      (compileLogged labelledStall []).1 = .ok chart' ∧
      chart.values.deploymentValues? 1 = some values ∧
      chart'.values.deploymentValues? 1 = some values := by
  have agree : labelledShop.AgreeAt labelledStall 1 (Canary.shopDeployment 2 ["web", "worker"]) :=
    { settings := rfl
      left := rfl
      right := rfl
      ports := rfl
      rules := by
        have each : ∀ p ∈ (Canary.shopDeployment 2 ["web", "worker"]).processes,
            labelledShop.app.labels.filter (·.applies 2 p.name) =
                labelledStall.app.labels.filter (·.applies 2 p.name) ∧
              labelledShop.app.annotations.filter (·.applies 2 p.name) =
                labelledStall.app.annotations.filter (·.applies 2 p.name) := by decide +kernel
        exact fun p hp => ⟨(each p hp).1, (each p hp).2⟩ }
  obtain ⟨chart, compiled⟩ := exists_ok_of_toBool
    (show (compileLogged labelledShop []).1.toBool = true by decide +kernel)
  obtain ⟨chart', compiled'⟩ := exists_ok_of_toBool
    (show (compileLogged labelledStall []).1.toBool = true by decide +kernel)
  obtain ⟨values, left, right⟩ := deployment_noninterference agree compiled compiled'
  exact ⟨chart, chart', values, agree, compiled, compiled', left, right⟩

end Chartwright
