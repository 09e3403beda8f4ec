import Chartwright.Spec.Application
import Chartwright.Spec.Environment

/-!
# Catalogue

All record shapes of the specifications, to be found by their titles.
-/

namespace Chartwright

open Schema

/-- A shape with the type of its values left out. -/
structure AnyShape where
  {carrier : Type}
  shape : Shape carrier

/-- The shapes of the specifications. -/
def catalogue : List AnyShape := [
  ⟨Binding.variableShape⟩, ⟨Binding.labelShape⟩, ⟨ExposedPort.shape⟩, ⟨PortConfig.shape⟩,
  ⟨Hooks.restartShape⟩, ⟨Hooks.shape⟩, ⟨Healthcheck.shape⟩, ⟨PortConfig.listShape⟩,
  ⟨PortConfig.tableShape⟩, ⟨Manifest.shape⟩, ⟨ProcessSpec.shape⟩, ⟨weightShape⟩,
  ⟨DeploymentSpec.shape⟩, ⟨Domain.shape⟩, ⟨IngressSpec.shape⟩, ⟨RuleTarget.shape⟩,
  ⟨MetadataRule.shape⟩, ⟨CanarySpec.shape⟩, ⟨ApplicationSpec.shape⟩, ⟨IngressController.shape⟩,
  ⟨EnvironmentSpec.shape⟩]

/-- The shape with a title. -/
def findShape? (title : String) : Option AnyShape :=
  catalogue.find? fun s => s.shape.title = title

/-- Reads a document by a shape and writes the value down again, with all its fields. -/
def AnyShape.normalize (s : AnyShape) (d : Document) : Except Rejection Document :=
  (s.shape.read d).map s.shape.encode

end Chartwright
