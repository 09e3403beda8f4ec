import Chartwright.Chart.Basic
import Chartwright.Proofs.Schema.Admission

/-!
# Values of charts

Where the parts of a compiled application are found in its tree of values.
-/

namespace Chartwright

/-- A key of an object is found where it is in its entries. -/
lemma Document.get?_object (entries : Dict String Document) (key : String) :
    (Document.object entries).get? key = Dict.get? entries key :=
  Schema.get?_object entries key

/-- An entry that is left out under a condition is found under its key, unless it is. -/
lemma get?_unless {p : Prop} [Decidable p] {key k : String} {value : Document} :
    Dict.get? (if p then [] else [(key, value)]) k =
      if p then none else if key = k then some value else none := by
  split <;> simp [Dict.get?]

/-! ## Processes -/

/-- The probes of a process by their keys. -/
def probeKeys : List String := ["readinessProbe", "livenessProbe", "startupProbe"]

namespace PodExtra

/-- An entry is found under its key, unless it is absent or empty. -/
lemma get?_entry {key k : String} {value : Option Extension} :
    Dict.get? (entry key value) k =
      if key = k then (value.filter (· ≠ [])).map .object else none := by
  match value with
  | none => simp [entry, Dict.get?]
  | some [] => simp [entry, Dict.get?, Option.filter]
  | some (e :: es) => simp [entry, Dict.get?, Option.filter]

/-- What is passed on under each key: mappings that are neither absent nor empty, and a list that is
not empty. -/
lemma get?_toDocument (x : PodExtra) :
    x.toDocument.get? "securityContext" = (x.securityContext.filter (· ≠ [])).map .object ∧
      x.toDocument.get? "resourceRequirements" = (x.resources.filter (· ≠ [])).map .object ∧
      x.toDocument.get? "volumeMounts" =
        (if x.volumeMounts = [] then none else some (.list (x.volumeMounts.map .object))) ∧
      x.toDocument.get? "readinessProbe" = (x.readiness.filter (· ≠ [])).map .object ∧
      x.toDocument.get? "livenessProbe" = (x.liveness.filter (· ≠ [])).map .object ∧
      x.toDocument.get? "startupProbe" = (x.startup.filter (· ≠ [])).map .object := by
  refine ⟨?_, ?_, ?_, ?_, ?_, ?_⟩
  all_goals simp [toDocument, Document.get?_object, Dict.get?_append, get?_entry, get?_unless]

end PodExtra

/-- What the values of a process have under the keys that ports are a matter of. -/
lemma ProcessDefinition.get?_toDocument (q : ProcessDefinition) :
    q.toDocument.get? "containerPorts" =
        some (.list (q.containerPorts.map containerPortDocument)) ∧
      q.toDocument.get? "servicePorts" = some (.list (q.servicePorts.map (·.toDocument))) ∧
      q.toDocument.get? "publicServicePort" = q.publicPort.map .int ∧
      q.toDocument.get? "env" = some (.list (q.env.map (·.toDocument))) ∧
      q.toDocument.get? "extra" = some q.extra.toDocument := by
  have single (p : Option Int) :
      Dict.get? (p.map fun port => ("publicServicePort", Document.int port)).toList
        "publicServicePort" = p.map .int := by
    cases p <;> simp [Dict.get?]
  refine ⟨?_, ?_, ?_, ?_, ?_⟩
  all_goals simp [toDocument, Document.get?_object, Dict.get?, single]

/-! ## Charts -/

/-- The processes and the volumes in the values of a deployment. -/
lemma CompiledDeployment.get?_toDocument (c : CompiledDeployment) :
    c.toDocument.get? "processes" = some (.list (c.processes.map (·.toDocument))) ∧
      (c.toDocument.get? "extra").bind (·.get? "volumes") =
        if c.volumes = [] then none else some (.list (c.volumes.map .object)) := by
  refine ⟨?_, ?_⟩
  all_goals simp [toDocument, Document.get?_object, Dict.get?, get?_unless]

namespace Chart

/-- The values of the deployments. -/
lemma values_deployments (c : Chart) :
    (c.values.get? "app").bind (·.get? "deployments") =
      some (.list (c.deployments.map (·.toDocument))) := by
  simp [values, Document.get?_object, Dict.get?]

/-- The values say whether traffic can come in. -/
lemma values_isAccessible (c : Chart) :
    (c.values.get? "app").bind (·.get? "isAccessible") = some (.bool c.isAccessible) := by
  simp [values, Document.get?_object, Dict.get?]

end Chart

end Chartwright
