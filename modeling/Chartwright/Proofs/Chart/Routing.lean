import Chartwright.Proofs.Chart.Access
import Chartwright.Proofs.Rollout.Validity
import Chartwright.Proofs.Spec.Admission

/-!
# Routable processes of charts

One process of every compiled deployment receives the traffic from outside, and it can be reached.
Neither which one it is nor anything else in a chart depends on the order of the processes, apart
from the order of their own entries and volumes.
-/

namespace Chartwright

open Outcome

instance : Nonempty ProcessDefinition :=
  ⟨⟨"", [], 0, false, [], [], none, [], .empty, .empty, .empty⟩⟩

/-- A process of a compiled deployment is routable, no other one is, and it can be reached. -/
structure CompiledDeployment.RoutesTo (d : DeploymentSpec) (c : CompiledDeployment)
    (q : ProcessDefinition) : Prop where
  only : c.processes.filter (·.routable) = [q]
  found : c.routableProcess? = some q
  chosen : d.Routes q.name
  containerPorts : q.containerPorts ≠ []
  servicePorts : q.servicePorts ≠ []
  publicPort : q.publicPort.isSome = true

/-- A deployment has the processes of another one in some other order. -/
structure DeploymentSpec.Reordered (d d' : DeploymentSpec) : Prop where
  processes : d.processes.Perm d'.processes
  rest : d' = { d with processes := d'.processes }

/-- Two compiled deployments have the same entry for each process, and its volumes, in the order of
the processes, and agree in all else. -/
structure CompiledDeployment.Reordered (d d' : DeploymentSpec) (c c' : CompiledDeployment) :
    Prop where
  entries : ∃ entry : ProcessSpec → ProcessDefinition,
    c.processes = d.processes.map entry ∧ c'.processes = d'.processes.map entry
  volumes : c.volumes = d.processes.flatMap (·.volumes) ∧
    c'.volumes = d'.processes.flatMap (·.volumes)
  rest : c' = { c with processes := c'.processes, volumes := c'.volumes }

/-- An application with another deployment at a place. -/
def ApplicationSpec.withDeployment (app : ApplicationSpec) (i : Nat) (d : DeploymentSpec) :
    ApplicationSpec :=
  { app with deployments := app.deployments.set i d }

/-- What is compiled with another deployment at a place. -/
def CompileInput.withDeployment (input : CompileInput) (i : Nat) (d : DeploymentSpec) :
    CompileInput :=
  { input with app := input.app.withDeployment i d }

/-- Two charts agree, and route to the same processes, but for the order of the processes of the
deployment at a place. -/
structure Chart.Reordered (i : Nat) (d d' : DeploymentSpec) (chart chart' : Chart) : Prop where
  deployment : ∃ c c', chart.deployments[i]? = some c ∧
    chart'.deployments = chart.deployments.set i c' ∧
    CompiledDeployment.Reordered d d' c c' ∧ c'.routableProcess? = c.routableProcess?
  accessible : chart'.isAccessible = chart.isAccessible
  rest : chart' = { chart with
    app := chart.app.withDeployment i d', deployments := chart'.deployments }

/-! ## The routable process -/

section

variable {app : ApplicationSpec} {d d' : DeploymentSpec} {settings : Settings}
  {overrides : PortOverrides}

/-- Where names are distinct, a process is the only one of its name. -/
lemma filter_name_eq {specs : List ProcessSpec} (distinct : (specs.map (·.name)).Nodup)
    {spec : ProcessSpec} (h : spec ∈ specs) :
    specs.filter (fun s => s.name = spec.name) = [spec] := by
  induction specs with
  | nil => cases h
  | cons s specs ih =>
    obtain ⟨hs, hn⟩ := List.nodup_cons.1 distinct
    cases h with
    | head =>
      rw [List.filter_cons_of_pos (by simp), List.filter_eq_nil_iff.2]
      intro t ht he
      exact hs (by simpa using ⟨t, ht, of_decide_eq_true he⟩)
    | tail _ h =>
      have ne : s.name ≠ spec.name := by
        intro e
        exact hs (List.mem_map.2 ⟨spec, h, e.symm⟩)
      rw [List.filter_cons_of_neg (by simpa using ne), ih hn h]

/-- A routable process that is resolved can be reached. -/
lemma ProcessSpec.reachable_of_resolve {ports : PortSource} {spec : ProcessSpec} {q}
    (h : spec.resolve app d ports true = .ok q) :
    q.containerPorts ≠ [] ∧ q.servicePorts ≠ [] ∧ q.publicPort.isSome = true := by
  obtain ⟨probes, -, open', rfl⟩ := ProcessSpec.resolve_inv h
  have ports := open' rfl
  simp only [ProcessDefinition.hasOpenPort, Bool.and_eq_true, decide_eq_true_eq] at ports
  refine ⟨ports.1, ports.2, ?_⟩
  obtain ⟨p, ps, e⟩ := List.exists_cons_of_ne_nil ports.2
  simp only [definition] at e ⊢
  rw [publicPort, e]
  rfl

/-- A deployment that compiles has one entry for each process, and its routable process is that of
some name. -/
lemma DeploymentSpec.compile_entries {c} (h : d.compile app settings overrides = .ok c) :
    ∃ name entry, d.Routes name ∧ c.processes = d.processes.map entry ∧
      ∀ spec ∈ d.processes, spec.resolve app d (d.portSource settings overrides)
        (decide (name = spec.name)) = .ok (entry spec) := by
  obtain ⟨procfile, processes, hp, hm, rfl⟩ := DeploymentSpec.compile_inv h
  obtain ⟨entry, rfl, he⟩ := exists_map_of_mapM (mapM_ok_iff.2 hm)
  exact ⟨procfile.routable, entry, Procfile.routes_of_ofSpecs hp, rfl, he⟩

/-- A deployment with distinct names that compiles routes to one process. -/
lemma DeploymentSpec.routesTo {c} (distinct : (d.processes.map (·.name)).Nodup)
    (h : d.compile app settings overrides = .ok c) : ∃ q, c.RoutesTo d q := by
  obtain ⟨name, entry, hr, hc, he⟩ := DeploymentSpec.compile_entries h
  obtain ⟨spec, hs, rfl⟩ := List.mem_map.1 hr.present
  have flags : ∀ s ∈ d.processes, (entry s).routable = decide (s.name = spec.name) := by
    intro s hm
    obtain ⟨probes, -, -, e⟩ := ProcessSpec.resolve_inv (he s hm)
    rw [e]
    exact decide_eq_decide.2 eq_comm
  have only : c.processes.filter (·.routable) = [entry spec] := by
    rw [hc, List.filter_map, ← List.map_singleton, ← filter_name_eq distinct hs]
    congr 1
    exact List.filter_congr flags
  have resolved := he spec hs
  rw [decide_eq_true rfl] at resolved
  obtain ⟨containers, services, outside⟩ := ProcessSpec.reachable_of_resolve resolved
  obtain ⟨probes, -, -, e⟩ := ProcessSpec.resolve_inv resolved
  refine ⟨entry spec, only, ?_, ?_, containers, services, outside⟩
  · rw [CompiledDeployment.routableProcess?, ← List.head?_filter, only]
    rfl
  · rw [e]
    exact hr

/-! ## Another order -/

/-- The procfiles of processes in another order name the same routable process. -/
lemma Procfile.alike_ofSpecs {specs specs' : List ProcessSpec} (h : specs.Perm specs') :
    Alike (fun p p' => Procfile.routable p = p'.routable) (ofSpecs specs) (ofSpecs specs') := by
  cases hp : ofSpecs specs with
  | error e =>
    cases eq_nil_of_ofSpecs hp
    cases h.nil_eq
    rw [hp]
    exact .error
  | ok p =>
    cases hp' : ofSpecs specs' with
    | error e =>
      cases eq_nil_of_ofSpecs hp'
      cases h.eq_nil
      rw [hp] at hp'
      cases hp'
    | ok p' =>
      have names (n : String) : n ∈ specs.map (·.name) ↔ n ∈ specs'.map (·.name) :=
        (h.map (·.name)).mem_iff
      exact .ok (((routes_of_ofSpecs hp).congr names).unique (routes_of_ofSpecs hp'))

/-- All processes of a deployment that fail to resolve do so in the same way. -/
lemma ProcessSpec.resolve_error_unique {ports : PortSource} {procfile : Procfile}
    {spec spec' : ProcessSpec} {e e'} (keys : MetadataRule.checkAll app.labels = .ok ())
    (keys' : MetadataRule.checkAll app.annotations = .ok ())
    (h : spec.resolve app d ports (procfile.isRoutable spec.name) = .error e)
    (h' : spec'.resolve app d ports (procfile.isRoutable spec'.name) = .error e') : e = e' := by
  rcases ProcessSpec.resolve_error keys keys' h with ⟨hu, rfl⟩ | ⟨hu, ⟨hr, -⟩, rfl⟩
  · rcases ProcessSpec.resolve_error keys keys' h' with ⟨-, rfl⟩ | ⟨hu', -⟩
    · rfl
    · exact absurd hu hu'
  · rcases ProcessSpec.resolve_error keys keys' h' with ⟨hu', -⟩ | ⟨-, ⟨hr', -⟩, rfl⟩
    · exact absurd hu' hu
    · -- only the routable process fails for its ports, and there is one name for it
      rw [← of_decide_eq_true hr, ← of_decide_eq_true hr']

/-- A deployment with its processes in another order compiles alike. -/
lemma DeploymentSpec.alike_compile (keys : MetadataRule.checkAll app.labels = .ok ())
    (keys' : MetadataRule.checkAll app.annotations = .ok ()) (h : d.Reordered d') :
    Alike (CompiledDeployment.Reordered d d') (d.compile app settings overrides)
      (d'.compile app settings overrides) := by
  obtain ⟨perm, rest⟩ := h
  generalize d'.processes = processes at perm rest
  subst rest
  refine (Procfile.alike_ofSpecs perm).mapError.bind ?_
  intro p p' _ _ routable
  have same : p'.isRoutable = p.isRoutable := by
    funext name
    rw [Procfile.isRoutable, Procfile.isRoutable, routable]
  simp only [same]
  refine (alike_mapM_of_perm perm fun spec _ spec' _ e e' h h' =>
    ProcessSpec.resolve_error_unique keys keys' h h').bind ?_
  rintro _ _ - - ⟨entry, rfl, rfl⟩
  exact .ok ⟨⟨entry, rfl, rfl⟩, ⟨rfl, rfl⟩, rfl⟩

/-- Deployments with the same entries in another order route to the same process. -/
lemma CompiledDeployment.Reordered.routable {c c' : CompiledDeployment} {q}
    (perm : d.processes.Perm d'.processes) (h : Reordered d d' c c') (hq : c.RoutesTo d q) :
    c'.routableProcess? = some q := by
  obtain ⟨entry, e, e'⟩ := h.entries
  have moved : (c'.processes.filter (·.routable)).Perm [q] := by
    rw [← hq.only, e, e']
    exact ((perm.map entry).filter _).symm
  rw [routableProcess?, ← List.head?_filter, List.perm_singleton.1 moved]
  rfl

end

/-! ## Charts -/

/-- Whether traffic can come in depends on the deployments by which of them have a routable
process. -/
lemma Chart.isAccessible_set (chart : Chart) (app : ApplicationSpec) {i : Nat}
    {c c' : CompiledDeployment} (hc : chart.deployments[i]? = some c)
    (h : c'.routableProcess? = c.routableProcess?) :
    isAccessible { chart with app, deployments := chart.deployments.set i c' } =
      chart.isAccessible := by
  have flags : (chart.deployments.set i c').map (fun d => d.routableProcess?.isSome) =
      chart.deployments.map fun d => d.routableProcess?.isSome := by
    apply List.ext_getElem?
    intro j
    rw [List.getElem?_map, List.getElem?_map, List.getElem?_set]
    split
    case isTrue e =>
      subst e
      rw [if_pos (List.getElem?_eq_some_iff.1 hc).1, hc, Option.map_some, Option.map_some, h]
    case isFalse => rfl
  have any := congrArg (·.any id) flags
  simp only [List.any_map, Function.id_comp] at any
  rw [isAccessible, isAccessible, any]

/-- An application with the processes of a deployment in another order compiles alike. -/
lemma alike_compile {input : CompileInput} {i : Nat} {d d' : DeploymentSpec}
    (distinct : (d.processes.map (·.name)).Nodup) (hi : input.app.deployments[i]? = some d)
    (h : d.Reordered d') :
    Alike (Chart.Reordered i d d') (compile input) (compile (input.withDeployment i d')) := by
  refine (alike_self (MetadataRule.checkAll _)).bind ?_
  rintro _ _ keys - rfl
  obtain ⟨labels, annotations⟩ := MetadataRule.checkAll_append keys
  refine (alike_self (input.app.resolveIngress _ _)).bind ?_
  rintro ingress _ - - rfl
  refine (alike_mapM_set hi (DeploymentSpec.alike_compile labels annotations h)).bind ?_
  rintro cs _ - - ⟨c, c', hc, rfl, compiled, -, reordered⟩
  obtain ⟨q, routes⟩ := DeploymentSpec.routesTo distinct compiled
  have routable : c'.routableProcess? = c.routableProcess? := by
    rw [reordered.routable h.processes routes, routes.found]
  exact .ok {
    deployment := ⟨c, c', hc, rfl, reordered, routable⟩
    accessible := Chart.isAccessible_set
      ⟨input.app, input.environment, cs, ingress, input.templates⟩ _ hc routable
    rest := rfl }

/-- Every compiled deployment of a valid application routes to one process, which can be reached.
With the processes of a deployment in another order the application is refused for the same problem,
or the chart is the same but for the order of that deployment's entries and volumes. -/
theorem routing {input : CompileInput} {context : LogContext}
    (admitted : ApplicationSpec.shape.Admits input.app) :
    (∀ chart, (compileLogged input context).1 = .ok chart →
      List.Forall₂ (fun d c => ∃ q, CompiledDeployment.RoutesTo d c q)
        input.app.deployments chart.deployments) ∧
    ∀ i d d', input.app.deployments[i]? = some d → d.Reordered d' →
      Alike (Chart.Reordered i d d') (compileLogged input context).1
        (compileLogged (input.withDeployment i d') context).1 := by
  have distinct : ∀ d ∈ input.app.deployments, (d.processes.map (·.name)).Nodup := by
    intro d hd
    have valid := (ApplicationSpec.admits_iff.1 admitted).deployments d hd
    exact (DeploymentSpec.admits_iff.1 valid).names
  simp only [compileLogged_value]
  constructor
  · intro chart compiled
    obtain ⟨ingress, deployments, -, hd, rfl⟩ := compile_inv compiled
    refine ((List.forall₂_and_left _ _).2 ⟨distinct, hd⟩).imp ?_
    rintro d c ⟨hn, hc⟩
    exact DeploymentSpec.routesTo hn hc
  · intro i d d' hi reordered
    exact alike_compile (distinct d (List.mem_of_getElem? hi)) hi reordered

/-- The shop, as it is compiled for an environment without entry points. -/
def indoorShop : CompileInput :=
  ⟨Canary.shop, ⟨"shops", "", ⟨"", "", .nginx, ""⟩, none⟩, [], [], .default⟩

/-- The shop routes to one process in each deployment, and in either order of the processes of the
second one. -/
theorem indoorShop_routing : ∃ chart, (compileLogged indoorShop []).1 = .ok chart ∧
    List.Forall₂ (fun d c => ∃ q, CompiledDeployment.RoutesTo d c q)
      Canary.shop.deployments chart.deployments ∧
    Alike (Chart.Reordered 1 (Canary.shopDeployment 2 ["web", "worker"])
        (Canary.shopDeployment 2 ["worker", "web"]))
      (compileLogged indoorShop []).1
      (compileLogged (indoorShop.withDeployment 1
        (Canary.shopDeployment 2 ["worker", "web"])) []).1 := by
  obtain ⟨chart, compiled⟩ := exists_ok_of_toBool
    (show (compileLogged indoorShop []).1.toBool = true by decide +kernel)
  have valid : ApplicationSpec.shape.Admits indoorShop.app :=
    ApplicationSpec.admits_iff.2 Canary.shop_admitted
  have reordered : (Canary.shopDeployment 2 ["web", "worker"]).Reordered
      (Canary.shopDeployment 2 ["worker", "web"]) :=
    ⟨.swap _ _ _, rfl⟩
  obtain ⟨sole, alike⟩ := routing valid
  exact ⟨chart, compiled, sole chart compiled, alike 1 _ _ rfl reordered⟩

end Chartwright
