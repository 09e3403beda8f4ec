import Chartwright.Proofs.Schema.Respelling
import Chartwright.Proofs.Schema.RoundTrip
import Chartwright.Proofs.Spec.Admission
import Chartwright.Spec.Catalogue

/-!
# The format of specifications

What is read as a specification can be written down and read again, and each field may come under
its name as well as under its other key; only where an error is said to be shows which it was.
-/

namespace Chartwright

open Schema

/-! ## Reversible shapes -/

lemma Binding.reversible (title : String) : (Binding.shape title).Reversible :=
  ⟨by decide, by simp, by simp, fun | _, _, rfl => rfl⟩

lemma ExposedPort.reversible : ExposedPort.shape.Reversible :=
  ⟨by decide, by simp, by simp, fun | _, _, rfl => rfl⟩

lemma PortConfig.reversible : PortConfig.shape.Reversible :=
  ⟨by decide, by simp [portBounds, Bound.holds], by simp, fun | _, _, rfl => rfl⟩

lemma PortConfig.list_reversible : PortConfig.listShape.Reversible :=
  ⟨by decide, by simp, by simp [PortConfig.reversible], fun | _, _, rfl => rfl⟩

lemma PortConfig.table_reversible : PortConfig.tableShape.Reversible :=
  ⟨by decide, by simp, by simp [PortConfig.list_reversible], fun | _, _, rfl => rfl⟩

lemma Hooks.restart_reversible : Hooks.restartShape.Reversible :=
  ⟨by decide, by simp, by simp, fun | _, _, rfl => rfl⟩

lemma Hooks.reversible : Hooks.shape.Reversible := by
  have default : Hooks.restartShape.Admits ⟨[], []⟩ := ⟨.mapping [], rfl⟩
  exact ⟨by decide, by simp [default], by simp [Hooks.restart_reversible], fun | _, _, rfl => rfl⟩

lemma Healthcheck.reversible : Healthcheck.shape.Reversible :=
  ⟨by decide, by simp [Bound.holds], by simp [Shape.isOptional], fun | _, _, rfl => rfl⟩

lemma Manifest.reversible : Manifest.shape.Reversible := by
  have hooks : Hooks.shape.isOptional = false := rfl
  have check : Healthcheck.shape.isOptional = false := rfl
  have ports : PortConfig.tableShape.isOptional = false := rfl
  refine ⟨by decide, by simp, ?_, fun | _, _, rfl => rfl⟩
  simp [hooks, check, ports, Hooks.reversible, Healthcheck.reversible, PortConfig.table_reversible]

lemma ProcessSpec.reversible : ProcessSpec.shape.Reversible := by
  have env := Binding.reversible "Env"
  exact ⟨by decide, by simp, by simp [Shape.isOptional, Binding.variableShape, env],
    fun | _, _, rfl => rfl⟩

lemma weight_reversible : weightShape.Reversible :=
  ⟨by decide, by simp [Bound.holds], by simp, fun | _, _, rfl => rfl⟩

lemma DeploymentSpec.reversible : DeploymentSpec.shape.Reversible := by
  have manifest : Manifest.shape.isOptional = false := rfl
  refine ⟨by decide, by simp [admits_weight_iff], ?_, fun tuple d made => ?_⟩
  · simp [manifest, Manifest.reversible, ProcessSpec.reversible, weight_reversible,
      ExposedPort.reversible, Binding.labelShape, Binding.reversible]
  · rw [(DeploymentSpec.checkNames_ok_iff.1 made).1]

lemma Domain.reversible : Domain.shape.Reversible :=
  ⟨by decide, by simp, by simp, fun | _, _, rfl => rfl⟩

lemma IngressSpec.reversible : IngressSpec.shape.Reversible :=
  ⟨by decide, by simp, by simp [Domain.reversible], fun | _, _, rfl => rfl⟩

lemma RuleTarget.reversible : RuleTarget.shape.Reversible :=
  ⟨by decide, by simp, by simp, fun | _, _, rfl => rfl⟩

lemma MetadataRule.reversible : MetadataRule.shape.Reversible := by
  have default : RuleTarget.shape.Admits ⟨"", ""⟩ := ⟨.mapping [], rfl⟩
  exact ⟨by decide, by simp [default, Bound.holds], by simp [RuleTarget.reversible],
    fun | _, _, rfl => rfl⟩

lemma IngressController.reversible : IngressController.shape.Reversible := by
  have default : (Shape.choice ControllerType.options ControllerType.name).Admits .traefik :=
    ⟨.text "traefik", rfl⟩
  have named : ∀ t : ControllerType, ControllerType.options.lookup t.name = some t := by
    intro t
    cases t <;> rfl
  exact ⟨by decide, by simp [default], by simp [named], fun | _, _, rfl => rfl⟩

lemma EnvironmentSpec.reversible : EnvironmentSpec.shape.Reversible := by
  have default : IngressController.shape.Admits ⟨"", "", .traefik, ""⟩ := ⟨.mapping [], rfl⟩
  exact ⟨by decide, by simp [default], by simp [Shape.isOptional, IngressController.reversible],
    fun | _, _, rfl => rfl⟩

/-- All shapes of the specifications but those with times are reversible. -/
lemma reversible_of_mem_catalogue : ∀ s ∈ catalogue, s.shape.title ≠ "CanarySpec" →
    s.shape.title ≠ "ApplicationSpec" → s.shape.Reversible := by
  simp only [catalogue, List.forall_mem_cons]
  exact ⟨fun _ _ => Binding.reversible _, fun _ _ => Binding.reversible _,
    fun _ _ => ExposedPort.reversible, fun _ _ => PortConfig.reversible,
    fun _ _ => Hooks.restart_reversible, fun _ _ => Hooks.reversible,
    fun _ _ => Healthcheck.reversible, fun _ _ => PortConfig.list_reversible,
    fun _ _ => PortConfig.table_reversible, fun _ _ => Manifest.reversible,
    fun _ _ => ProcessSpec.reversible, fun _ _ => weight_reversible,
    fun _ _ => DeploymentSpec.reversible, fun _ _ => Domain.reversible,
    fun _ _ => IngressSpec.reversible, fun _ _ => RuleTarget.reversible,
    fun _ _ => MetadataRule.reversible, fun canary => absurd rfl canary,
    fun _ application => absurd rfl application, fun _ _ => IngressController.reversible,
    fun _ _ => EnvironmentSpec.reversible, List.forall_mem_nil _⟩

/-- No two fields of a specification have a key in common. -/
lemma distinct_of_mem_catalogue : ∀ s ∈ catalogue, s.shape.isDistinct = true := by
  decide

/-- An application without a rollout is read as it is written without one. -/
lemma ApplicationSpec.decode_without_canary {d : Document} {app : ApplicationSpec}
    (missing : d.get? "canary" = none) (h : ApplicationSpec.shape.decode d = .ok app) :
    ApplicationSpec.shape.decode ((ApplicationSpec.shape.encode app).without ["canary"]) =
      .ok app := by
  obtain ⟨entries, -, rfl, -⟩ := Shape.decode_record_ok h
  have ingress : IngressSpec.shape.Admits ⟨false, []⟩ := ⟨.mapping [], rfl⟩
  have canary : CanarySpec.shape.Admits .none := ⟨.mapping [], rfl⟩
  have absent : Dict.get? entries (.text "canary") = none := missing
  refine Shape.decode_without (by decide) ?_ ?_ ?_ ?_ h
  · simp [ingress, canary, TextRule.check_ok_iff]
  · simp [Shape.isOptional, DeploymentSpec.reversible, Binding.variableShape, Binding.reversible,
      IngressSpec.reversible, MetadataRule.reversible]
  · intro tuple app made
    cases made
    rfl
  · simp [findField, absent]

/-! ## Specifications -/

lemma AnyShape.normalize_of_read {s : AnyShape} {d : Document} {a : s.carrier}
    (h : s.shape.read d = .ok a) : s.normalize d = .ok (s.shape.encode a) :=
  Outcome.map_ok_iff.2 ⟨a, h, rfl⟩

/-- What is read as a specification other than a rollout is read again from what is written for it,
and written as before; an application is so but for its rollout, where it has none. And whichever
keys of fields are replaced by their names, the same is read, or refused for the same reasons at the
same places with these keys replaced. -/
theorem format_round_trips :
    (∀ s ∈ catalogue, s.shape.title ≠ "CanarySpec" → s.shape.title ≠ "ApplicationSpec" →
      ∀ d a, s.shape.read d = .ok a →
        s.shape.read (s.shape.encode a) = .ok a ∧
          s.normalize (s.shape.encode a) = .ok (s.shape.encode a)) ∧
    (∀ d app, d.get? "canary" = none → ApplicationSpec.shape.read d = .ok app →
      let dump := (ApplicationSpec.shape.encode app).without ["canary"]
      ApplicationSpec.shape.read dump = .ok app ∧
        ((AnyShape.mk ApplicationSpec.shape).normalize dump).map (·.without ["canary"]) =
          .ok dump) ∧
    ∀ s ∈ catalogue, ∀ places d, s.shape.isUnmixed d = true →
      s.shape.read (s.shape.respell places d) =
        (s.shape.read d).mapError (·.relocate (s.shape.respellPath places)) := by
  refine ⟨fun s hs canary application d a h => ?_, fun d app missing h => ?_,
    fun s hs places d unmixed => ?_⟩
  · have admitted : s.shape.Admits a := ⟨d, Shape.read_ok_iff.1 h⟩
    have again : s.shape.read (s.shape.encode a) = .ok a := Shape.read_ok_iff.2
      (Shape.decode_encode (reversible_of_mem_catalogue s hs canary application) admitted)
    exact ⟨again, AnyShape.normalize_of_read again⟩
  · have again := Shape.read_ok_iff.2
      (ApplicationSpec.decode_without_canary missing (Shape.read_ok_iff.1 h))
    have written := @AnyShape.normalize_of_read ⟨ApplicationSpec.shape⟩ _ _ again
    exact ⟨again, Outcome.map_ok_iff.2 ⟨_, written, rfl⟩⟩
  · exact Shape.read_respell (distinct_of_mem_catalogue s hs) unmixed

/-- A deployment that is given with other keys than the names of its fields, and with a text for a
number and a number for a flag. -/
def spelledDocument : Document := .object [
  ("image", .text "shop:v2"),
  ("version", .text "2"),
  ("processes", .list [.object [("name", .text "web"), ("volumeMounts", .list [])]]),
  ("manifest", .object [("healthcheck", .object [("use_in_router", .int 1)])]),
  ("routingSettings", .object [("weight", .int 30)])]

/-- The same deployment with the names of all fields. -/
def respelledDocument : Document := .object [
  ("image", .text "shop:v2"),
  ("version", .text "2"),
  ("processes", .list [.object [("name", .text "web"), ("volume_mounts", .list [])]]),
  ("manifest", .object [("healthcheck", .object [("use_in_router", .int 1)])]),
  ("routing_settings", .object [("weight", .int 30)])]

/-- What both say. -/
def spelledDeployment : DeploymentSpec :=
  ⟨"shop:v2", 2, [⟨"web", [], none, [], none, [], [], none⟩],
    some ⟨none, some ⟨none, none, none, "", "", "", 0, 0, 0, true, false⟩, none⟩, [], 30, [], []⟩

/-- The deployment is read with either keys, and again from what is written for it; and so is an
application that has but a name. -/
theorem spelledDocument_round_trips :
    DeploymentSpec.shape.read spelledDocument = .ok spelledDeployment ∧
    DeploymentSpec.shape.read (DeploymentSpec.shape.encode spelledDeployment) =
      .ok spelledDeployment ∧
    DeploymentSpec.shape.isUnmixed spelledDocument = true ∧
    DeploymentSpec.shape.respell (fun _ => true) spelledDocument = respelledDocument ∧
    DeploymentSpec.shape.read respelledDocument = .ok spelledDeployment ∧
    ∃ app, ApplicationSpec.shape.read (.object [("name", .text "shop")]) = .ok app ∧
      ApplicationSpec.shape.read ((ApplicationSpec.shape.encode app).without ["canary"]) =
        .ok app := by
  have listed : AnyShape.mk DeploymentSpec.shape ∈ catalogue := by simp [catalogue]
  have read : DeploymentSpec.shape.read spelledDocument = .ok spelledDeployment := by rfl
  have unmixed : DeploymentSpec.shape.isUnmixed spelledDocument = true := by decide
  have named : DeploymentSpec.shape.respell (fun _ => true) spelledDocument = respelledDocument := by
    rfl
  obtain ⟨again, application, spelling⟩ := format_round_trips
  have same := spelling _ listed (fun _ => true) _ unmixed
  simp only [named, read, Except.mapError] at same
  refine ⟨read, (again _ listed (by decide) (by decide) _ _ read).1, unmixed, named, same, ?_⟩
  exact ⟨_, rfl, (application (.object [("name", .text "shop")]) _ rfl rfl).1⟩

/-- A port with a target that is no number, under either key of the field. -/
def misspeltTarget (key : String) : Document := .object [(key, .text "x")]

/-- What is wrong with the port. -/
def targetRejection (key : String) : Rejection :=
  ⟨"PortConfig", [⟨[.field key "targetPort"], .unreadableInteger⟩]⟩

/-- The port is refused for the same reason with either key, but at another place. -/
theorem misspeltTarget_located :
    PortConfig.shape.isUnmixed (misspeltTarget "targetPort") = true ∧
    PortConfig.shape.respell (fun _ => true) (misspeltTarget "targetPort") =
      misspeltTarget "target_port" ∧
    PortConfig.shape.read (misspeltTarget "targetPort") = .error (targetRejection "targetPort") ∧
    PortConfig.shape.read (misspeltTarget "target_port") = .error (targetRejection "target_port") ∧
    (targetRejection "target_port").issues.map (·.path) ≠
      (targetRejection "targetPort").issues.map (·.path) := by
  decide

end Chartwright
