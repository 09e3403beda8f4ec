import Chartwright.Files.Tree
import Chartwright.Report
import Chartwright.Spec.Environment

/-!
# Templates

A set of templates is the content of a chart's template directory, by file name. Sets are kept
under names in a store or in the directories of a file tree.
-/

namespace Chartwright

/-- Templates by file name. -/
abbrev Templates := Dict String String

/-- Why there are no templates. -/
inductive TemplateProblem where
  | notStored (name : String)
  | noDirectory (path : String)
  /-- A template is not in UTF-8. -/
  | undecodable
deriving DecidableEq, Repr

/-- The report of a problem; a template that cannot be decoded has none. -/
def TemplateProblem.report? : TemplateProblem → Option Report
  | .notStored name =>
    some (.ofKind .templatesNotFound ("templates " ++ Text.quoted name ++ " not found"))
  | .noDirectory path =>
    some (.ofKind .templatesNotFound ("template directory " ++ Text.quoted path ++ " not found"))
  | .undecodable => none

/-- The name of the templates for an ingress controller. -/
def templatesName (controller : String) : String := "ingress-" ++ controller ++ "-templates"

/-- The name of the templates for an environment. -/
def EnvironmentSpec.templatesName (e : EnvironmentSpec) : String :=
  Chartwright.templatesName e.controller.type.name

/-- Sets of templates by name. -/
abbrev TemplateStore := Dict String Templates

namespace TemplateStore

/-- The templates under a name. -/
def read (store : TemplateStore) (name : String) : Except TemplateProblem Templates :=
  match Dict.get? store name with
  | some templates => .ok templates
  | none => .error (.notStored name)

/-- Stores templates under a name, in place of what was there. -/
def update (store : TemplateStore) (name : String) (templates : Templates) : TemplateStore :=
  Dict.put store name templates

end TemplateStore

namespace Templates

/-- Reads a file as a template. -/
def readFile (file : String × ByteArray) : Except TemplateProblem (String × String) :=
  match Text.decode? file.2 with
  | some text => .ok (file.1, text)
  | none => .error .undecodable

/-- Reads all files of a directory as templates. -/
def readDirectory (t : FileTree) (p : Path) : Except TemplateProblem Templates :=
  if !t.isDirectory p then .error (.noDirectory p.render) else (t.filesIn p).mapM readFile

/-- Reads a set from the directory of its name. -/
def readBelow (t : FileTree) (root : Path) (name : String) : Except TemplateProblem Templates :=
  readDirectory t (root.join name)

end Templates

end Chartwright
