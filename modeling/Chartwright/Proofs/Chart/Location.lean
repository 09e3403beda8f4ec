import Chartwright.Proofs.Chart.Refusal
import Chartwright.Proofs.Rollout.Validity

/-!
# Where a compilation failed

What the context of a report tells of the place of a failure. It names the application, and the
deployment, process or domain that is to blame, but for two kinds of problems whose reports have no
context at all: malformed keys, and health checks that have no probes.
-/

namespace Chartwright

open Outcome

namespace CompileInput

/-- A deployment is to blame for a failure: no key and no domain is, and it is the first one that
does not compile. -/
structure FailsAt (input : CompileInput) (d : DeploymentSpec) : Prop where
  keys : input.WellKeyed
  issued : input.Issued
  first : IsFirst (¬ ·.Compilable) input.app.deployments d

/-- A domain is to blame for a failure: no key is, and it is the first one that needs certificates
where nobody issues them. -/
structure FailsFor (input : CompileInput) (domain : Domain) : Prop where
  keys : input.WellKeyed
  unissued : input.environment.controller.clusterIssuer = ""
  first : IsFirst (·.secure = true) input.app.ingress.domains domain

/-- A context tells where the compilation of an application failed. -/
structure Located (input : CompileInput) (c : FailureContext) : Prop where
  app : c.app = some (.text input.app.name)
  domain : ∀ domain, input.FailsFor domain → c.domain = some (.text domain.name)
  version : ∀ d, input.FailsAt d → c.version = some (.int d.version)
  process : ∀ d process, input.FailsAt d → d.Routes process → c.process = some (.text process)

/-- The failures that nobody locates. -/
inductive Unlocated (input : CompileInput) : Prop where
  | malformedKey :
    ¬ input.WellKeyed →
    Unlocated input
  | healthcheck {d : DeploymentSpec} :
    input.FailsAt d →
    d.processes ≠ [] →
    d.Unprobeable →
    Unlocated input

variable {input : CompileInput} {d d' : DeploymentSpec} {domain domain' : Domain}

lemma FailsAt.unique (h : input.FailsAt d) (h' : input.FailsAt d') : d = d' :=
  h.first.unique h'.first

lemma FailsFor.unique (h : input.FailsFor domain) (h' : input.FailsFor domain') :
    domain = domain' :=
  h.first.unique h'.first

/-- Either a domain is to blame or a deployment, and not both. -/
lemma FailsFor.not_failsAt (h : input.FailsFor domain) : ¬ input.FailsAt d := fun h' =>
  h'.issued _ h.first.mem h.first.holds h.unissued

lemma FailsFor.located (h : input.FailsFor domain) :
    input.Located (CompileProblem.missingIssuer input.app.name domain.name).report.context where
  app := rfl
  domain domain' h' := by
    rw [← h.unique h']
    rfl
  version _ h' := absurd h' h.not_failsAt
  process _ _ h' := absurd h' h.not_failsAt

lemma FailsAt.located_empty (h : input.FailsAt d) (empty : d.processes = []) :
    input.Located (CompileProblem.emptyDefinition input.app.name d.version).report.context where
  app := rfl
  domain _ h' := absurd h h'.not_failsAt
  version d' h' := by
    rw [← h.unique h']
    rfl
  process d' process h' routes := by
    rw [← h.unique h'] at routes
    exact absurd empty (DeploymentSpec.Routes.inhabited routes)

lemma FailsAt.located_closed {process : String} (h : input.FailsAt d) (routes : d.Routes process) :
    input.Located
      (CompileProblem.portsNotFound input.app.name d.version process).report.context where
  app := rfl
  domain _ h' := absurd h h'.not_failsAt
  version d' h' := by
    rw [← h.unique h']
    rfl
  process d' process' h' routes' := by
    rw [← h.unique h'] at routes'
    rw [Procfile.Routes.unique routes' routes]
    rfl

/-- A failure that a domain is to blame for is one that is located. -/
lemma FailsFor.not_unlocated (h : input.FailsFor domain) : ¬ input.Unlocated := by
  intro unlocated
  cases unlocated with
  | malformedKey malformed => exact malformed h.keys
  | healthcheck at_ => exact h.not_failsAt at_

/-- Of the failures that a deployment is to blame for, only those of its health check are not
located. -/
lemma FailsAt.unlocated_iff (h : input.FailsAt d) :
    input.Unlocated ↔ d.processes ≠ [] ∧ d.Unprobeable := by
  constructor
  · intro unlocated
    cases unlocated with
    | malformedKey malformed => exact absurd h.keys malformed
    | healthcheck h' inhabited unprobeable =>
      rw [h.unique h']
      exact ⟨inhabited, unprobeable⟩
  · rintro ⟨inhabited, unprobeable⟩
    exact .healthcheck h inhabited unprobeable

end CompileInput

/-- What is reported is located, or else has no context and is one of the failures that nobody
locates. -/
lemma Refusal.located {input : CompileInput} {problem : CompileProblem}
    (h : Refusal input problem) :
    (¬ input.Unlocated ∧ input.Located problem.report.context) ∨
      (input.Unlocated ∧ problem.report.context = .none) := by
  cases h with
  | malformedKey first =>
    exact .inr ⟨.malformedKey fun keys => keys.not_isFirst first, rfl⟩
  | missingIssuer keys unissued first =>
    have blamed : input.FailsFor _ := ⟨keys, unissued, first⟩
    exact .inl ⟨blamed.not_unlocated, blamed.located⟩
  | deployment keys issued first refusal =>
    have blamed : input.FailsAt _ := ⟨keys, issued, first⟩
    cases refusal with
    | emptyDefinition empty =>
      exact .inl ⟨fun h => (blamed.unlocated_iff.1 h).1 empty, blamed.located_empty empty⟩
    | healthcheckMethod inhabited unprobeable =>
      exact .inr ⟨.healthcheck blamed inhabited unprobeable, rfl⟩
    | portsNotFound probeable routes =>
      exact .inl ⟨fun h => probeable (blamed.unlocated_iff.1 h).2, blamed.located_closed routes⟩

/-- The report of a compilation that fails tells where it failed, unless a malformed key or the
method of a health check is the reason, of which it tells no place at all. -/
theorem failure_located {input : CompileInput} {context : LogContext} {problem : CompileProblem}
    (failed : (compileLogged input context).1 = .error problem) :
    (input.Located problem.report.context ↔ ¬ input.Unlocated) ∧
      (input.Unlocated → problem.report.context = .none) := by
  rw [compileLogged_value] at failed
  rcases (compile_error failed).located with ⟨located, told⟩ | ⟨unlocated, empty⟩
  · exact ⟨iff_of_true told located, fun h => absurd h located⟩
  · refine ⟨iff_of_false (fun told => ?_) (not_not_intro unlocated), fun _ => empty⟩
    have app := told.app
    rw [empty] at app
    cases app

/-- A deployment of a shop whose only process has no port, and a health check in the router. -/
def checkedDeployment (method : String) : DeploymentSpec :=
  { Canary.shopDeployment 2 ["web"] with
    manifest := some ⟨none,
      some ⟨none, none, none, "/health", "", method, 0, 0, 0, true, false⟩, some [("web", [])]⟩ }

/-- A shop whose second deployment has a health check. -/
def checkedShop (method : String) : CompileInput where
  app := { Canary.shop with
    deployments := [Canary.shopDeployment 1 ["web"], checkedDeployment method] }
  environment := ⟨"production", "", ⟨"", "", .traefik, ""⟩, none⟩
  templates := []
  overrides := []
  settings := .default

/-- A shop whose second deployment passes, passes. -/
lemma checkedShop_admits {method : String}
    (readable : DeploymentSpec.shape.decode (DeploymentSpec.shape.encode
      (checkedDeployment method)) = .ok (checkedDeployment method)) :
    ApplicationSpec.shape.Admits (checkedShop method).app := by
  refine ApplicationSpec.admits_iff.2 (Canary.shop_admitted.update ?_ Canary.shop_admitted.canary)
  simp only [List.forall_mem_cons]
  exact ⟨Canary.shopDeployment_admits (by decide) (by decide) (by decide), ⟨_, readable⟩,
    List.forall_mem_nil _⟩

/-- A shop that has no port is located. -/
theorem checkedShop_located :
    ApplicationSpec.shape.Admits (checkedShop "GET").app ∧
      (compileLogged (checkedShop "GET") []).1 = .error (.portsNotFound "shop" 2 "web") ∧
      (checkedShop "GET").Located (CompileProblem.portsNotFound "shop" 2 "web").report.context := by
  have failed : (compileLogged (checkedShop "GET") []).1 =
      .error (.portsNotFound "shop" 2 "web") := by decide +kernel
  refine ⟨checkedShop_admits (by decide +kernel), failed, ?_⟩
  obtain ⟨located, empty⟩ := failure_located failed
  exact located.2 fun unlocated => by cases empty unlocated

/-- A shop whose health check asks for another method is refused for its second deployment, of which
the report tells nothing. -/
theorem checkedShop_unlocated :
    ApplicationSpec.shape.Admits (checkedShop "POST").app ∧
      (compileLogged (checkedShop "POST") []).1 = .error .healthcheckMethod ∧
      (checkedShop "POST").FailsAt (checkedDeployment "POST") ∧
      CompileProblem.healthcheckMethod.report.context = .none := by
  have failed : (compileLogged (checkedShop "POST") []).1 = .error .healthcheckMethod := by
    decide +kernel
  refine ⟨checkedShop_admits (by decide +kernel), failed, ?_, rfl⟩
  rw [compileLogged_value] at failed
  cases compile_error failed with
  | deployment keys issued first refusal =>
    cases refusal with
    | healthcheckMethod _ unprobeable =>
      obtain ⟨m, _, hm, -⟩ := unprobeable
      have mem := first.mem
      simp only [checkedShop, List.mem_cons, List.not_mem_nil, or_false] at mem
      rcases mem with rfl | rfl
      · -- the first deployment has no manifest
        cases hm
      · exact ⟨keys, issued, first⟩

end Chartwright
