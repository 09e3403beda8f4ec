import Chartwright.Proofs.Chart.Inversion
import Chartwright.Proofs.Chart.Refusal
import Chartwright.Proofs.Chart.Values
import Chartwright.Proofs.Rollout.Run

/-!
# Access from outside

The entry points of an application, the URLs that are listed for it and the flag in its values are
computed apart. They agree: the entry points have the listed URLs, and traffic can come in where
there is a deployment to receive it and a URL to reach it by.
-/

namespace Chartwright

open Outcome

/-- The URLs of entry points. -/
def Ingress.urls (i : Ingress) : List String :=
  i.http.map ("http://" ++ ·) ++ i.https.map ("https://" ++ ·.host)

/-- Entry points are those of the domains of an application, with the made one behind the plain
ones, and have the URLs that are listed for it. -/
structure Ingress.Agrees (app : ApplicationSpec) (environment : EnvironmentSpec)
    (settings : Settings) (i : Ingress) : Prop where
  plain : i.http = (app.ingress.domains.filter (!·.secure)).map (·.name) ++
    (app.defaultDomain? environment settings).toList
  secure : i.https.map (·.host) = (app.ingress.domains.filter (·.secure)).map (·.name)
  urls : i.urls.Perm (app.urls (some environment) settings)

/-! ## Entry points -/

section

variable {app : ApplicationSpec} {environment : EnvironmentSpec} {settings : Settings}

/-- The entry points of an application whose domains are accepted. -/
lemma ApplicationSpec.resolveIngress_inv {i}
    (h : app.resolveIngress environment settings = .ok i) :
    i = ⟨(app.ingress.domains.filter (!·.secure)).map (·.name) ++
        (app.defaultDomain? environment settings).toList,
      (app.ingress.domains.filter (·.secure)).map (·.endpoint app.name)⟩ := by
  unfold resolveIngress at h
  simp only at h
  split at h
  · cases h
  · cases h
    rfl

/-- Secure domains have URLs of one scheme, plain domains of the other. -/
lemma Domain.map_url_filter (domains : List Domain) :
    (domains.filter (·.secure)).map (·.url) =
        (domains.filter (·.secure)).map ("https://" ++ ·.name) ∧
      (domains.filter (!·.secure)).map (·.url) =
        (domains.filter (!·.secure)).map ("http://" ++ ·.name) := by
  constructor
  all_goals
    apply List.map_congr_left
    intro d hd
    have hs := List.of_mem_filter hd
    simp_all [url]

/-- Accepted domains have entry points that agree with them. -/
lemma Ingress.agrees {i} (h : app.resolveIngress environment settings = .ok i) :
    i.Agrees app environment settings := by
  cases ApplicationSpec.resolveIngress_inv h
  refine ⟨rfl, by rw [List.map_map]; rfl, ?_⟩
  obtain ⟨secure, plain⟩ := Domain.map_url_filter app.ingress.domains
  have mixed := (List.filter_append_perm (·.secure) app.ingress.domains).map (·.url)
  rw [List.map_append, secure, plain] at mixed
  simp only [urls, ApplicationSpec.urls, Option.bind_some, List.map_append, List.map_map,
    Option.toList_map]
  -- secure and plain domains mix as they were, with the made domain in front of them
  refine List.perm_append_comm.trans ?_
  rw [← List.append_assoc]
  refine List.perm_append_comm.trans ?_
  exact mixed.append_left _

end

/-! ## Deployments -/

/-- A deployment that compiles has a routable process. -/
lemma DeploymentSpec.isSome_routableProcess? {app settings overrides} {d : DeploymentSpec} {c}
    (h : d.compile app settings overrides = .ok c) : c.routableProcess?.isSome := by
  obtain ⟨procfile, processes, hp, hr, rfl⟩ := DeploymentSpec.compile_inv h
  obtain ⟨spec, hspec, hname⟩ := List.mem_map.1 (Procfile.routes_of_ofSpecs hp).present
  obtain ⟨q, hq, hres⟩ := exists_of_forall₂ hr hspec
  obtain ⟨probes, -, -, rfl⟩ := ProcessSpec.resolve_inv hres
  rw [CompiledDeployment.routableProcess?, List.find?_isSome]
  exact ⟨_, hq, by simp [ProcessSpec.definition, Procfile.isRoutable, hname]⟩

/-- Traffic can come in where there are a deployment and a URL. -/
lemma isAccessible_iff {input : CompileInput} {chart} (h : compile input = .ok chart) :
    chart.isAccessible = true ↔ input.app.deployments ≠ [] ∧
      input.app.urls (some input.environment) input.settings ≠ [] := by
  obtain ⟨ingress, deployments, hi, hd, rfl⟩ := compile_inv h
  have entry : (ingress.http ≠ [] || ingress.https ≠ []) = true ↔
      input.app.urls (some input.environment) input.settings ≠ [] := by
    have none : ingress.urls = [] ↔
        input.app.urls (some input.environment) input.settings = [] := by
      rw [← List.length_eq_zero_iff, (Ingress.agrees hi).urls.length_eq, List.length_eq_zero_iff]
    simp [← none, Ingress.urls, or_iff_not_imp_left]
  have receiver : (deployments.any fun d => d.routableProcess?.isSome) = true ↔
      input.app.deployments ≠ [] := by
    generalize input.app.deployments = specs at hd
    cases hd with
    | nil => simp
    | cons hc hcs => simp [DeploymentSpec.isSome_routableProcess? hc]
  rw [Chart.isAccessible, Bool.and_eq_true, entry, receiver, and_comm]

/-- The entry points of an application agree with its domains and URLs wherever they are accepted,
and the values of every chart say that traffic can come in just where there are a deployment and a
URL. -/
theorem access_agrees :
    (∀ (app : ApplicationSpec) (environment : EnvironmentSpec) (settings : Settings)
        (ingress : Ingress), app.resolveIngress environment settings = .ok ingress →
      ingress.Agrees app environment settings) ∧
    ∀ (input : CompileInput) (context : LogContext) (chart : Chart),
      (compileLogged input context).1 = .ok chart →
        (chart.values.get? "app").bind (·.get? "isAccessible") =
          some (.bool (decide (input.app.deployments ≠ [] ∧
            input.app.urls (some input.environment) input.settings ≠ []))) := by
  constructor
  · intro app environment settings ingress accepted
    exact Ingress.agrees accepted
  · intro input context chart compiled
    rw [compileLogged_value] at compiled
    have flag : chart.isAccessible = decide (input.app.deployments ≠ [] ∧
        input.app.urls (some input.environment) input.settings ≠ []) := by
      rw [Bool.eq_iff_iff, decide_eq_true_eq]
      exact isAccessible_iff compiled
    rw [Chart.values_isAccessible, flag]

/-- The shop with a secure domain, a plain one and the one that is made for it. -/
def openShop : ApplicationSpec :=
  { Canary.shop with
    ingress := ⟨true, [⟨"pay.example", true, ""⟩, ⟨"shop.example", false, ""⟩]⟩ }

/-- An environment with an endpoint, in which certificates are issued. -/
def publicEnvironment : EnvironmentSpec := ⟨"public", "", ⟨"", "10.0.0.1", .nginx, "issuer"⟩, none⟩

/-- Traffic can come in to the shop, over entry points that agree with its domains. -/
theorem openShop_access : ∃ ingress chart,
    openShop.resolveIngress publicEnvironment .default = .ok ingress ∧
      ingress.Agrees openShop publicEnvironment .default ∧
      (compileLogged ⟨openShop, publicEnvironment, [], [], .default⟩ []).1 = .ok chart ∧
      (chart.values.get? "app").bind (·.get? "isAccessible") = some (.bool true) := by
  obtain ⟨ingress, accepted⟩ := exists_ok_of_toBool
    (show (openShop.resolveIngress publicEnvironment .default).toBool = true by decide +kernel)
  obtain ⟨chart, compiled⟩ := exists_ok_of_toBool
    (show (compileLogged ⟨openShop, publicEnvironment, [], [], .default⟩ []).1.toBool = true
      by decide +kernel)
  obtain ⟨agrees, accessible⟩ := access_agrees
  have reached := accessible _ _ _ compiled
  rw [show decide (openShop.deployments ≠ [] ∧
    openShop.urls (some publicEnvironment) .default ≠ []) = true by decide +kernel] at reached
  exact ⟨ingress, chart, accepted, agrees _ _ _ _ accepted, compiled, reached⟩

end Chartwright
