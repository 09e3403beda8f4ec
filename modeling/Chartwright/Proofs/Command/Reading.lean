import Chartwright.Command.Run
import Chartwright.Proofs.Chart.Templates

/-!
# What is read for a request

The files that a request names are read as specifications and as templates. Either way it depends on
the content of the files and on the libraries alone what is read, or why nothing is.
-/

namespace Chartwright.Command

open Outcome Schema

variable {α : Type}

section

variable (l : Libraries) (file : SourceFile)

/-- What is loaded from the text in a file. -/
def Loads (d : l.Loaded) : Prop :=
  ∃ text, Text.decode? file.content = some text ∧ l.load text = .ok d

/-- A file specifies a value of a shape. -/
def Specifies (shape : Shape α) (a : α) : Prop :=
  ∃ d, Loads l file d ∧ l.isMapping d = true ∧ l.validate shape d = .ok a

/-- A library fails over a file with an error that is not provided for. -/
inductive Raises (shape : Shape α) : ForeignError → Prop where
  | loading {text error} :
    Text.decode? file.content = some text →
    l.load text = .error (.other error) →
    Raises shape error
  | validating {d error} :
    Loads l file d →
    l.isMapping d = true →
    l.validate shape d = .error (.other error) →
    Raises shape error

/-- How a file does not specify a value of a shape. -/
inductive Misspecifies (shape : Shape α) : Failure → Prop where
  | noText :
    ¬ file.content.IsValidUTF8 →
    Misspecifies shape (.reported (unreadable file.path (l.undecodable file.content)))
  | malformed {text reason} :
    Text.decode? file.content = some text →
    l.load text = .error (.expected reason) →
    Misspecifies shape (.reported (unreadable file.path reason))
  | noMapping {d} :
    Loads l file d →
    l.isMapping d = false →
    Misspecifies shape (.reported (file.path.render ++ " must contain a mapping"))
  | rejected {d text} :
    Loads l file d →
    l.isMapping d = true →
    l.validate shape d = .error (.expected text) →
    Misspecifies shape (.reported text)
  | raised {error} :
    Raises l file shape error →
    Misspecifies shape (.escaped (.raised error))

end

section

variable (t : FileTree) (directory : Option String)

/-- The templates of a request: none, or the texts of all files in its directory. -/
inductive Provides : Templates → Prop where
  | none :
    directory = none →
    Provides []
  | directory {name templates} :
    directory = some name →
    t.isDirectory (.ofString name) = true →
    List.Forall₂ (fun file template => file.1 = template.1 ∧ Text.decode? file.2 = some template.2)
      (t.filesIn (.ofString name)) templates →
    Provides templates

/-- How a request has no templates. -/
inductive Misprovides : Failure → Prop where
  | noDirectory {name} :
    directory = some name →
    t.isDirectory (.ofString name) = false →
    Misprovides (.reported
      ("template directory " ++ Text.quoted (Path.ofString name).render ++ " not found"))
  | undecodable {name file content} :
    directory = some name →
    t.isDirectory (.ofString name) = true →
    (file, content) ∈ t.filesIn (.ofString name) →
    ¬ content.IsValidUTF8 →
    Misprovides (.escaped .undecodable)

end

/-! ## Specifications -/

section

variable {l : Libraries} {file : SourceFile} {shape : Shape α}

lemma readText_of_decode {text : String} (h : Text.decode? file.content = some text) :
    readText l file = .ok text := by
  rw [readText, h]

lemma readText_of_invalid (h : ¬ file.content.IsValidUTF8) :
    readText l file = report (unreadable file.path (l.undecodable file.content)) := by
  have undecoded : Text.decode? file.content = none := by
    rw [← Option.not_isSome_iff_eq_none, Text.isSome_decode?_iff]
    exact h
  rw [readText, undecoded]

lemma readMapping_of_decode {text : String} (decoded : Text.decode? file.content = some text) :
    readMapping l file = (l.load text).mapError (·.failure (unreadable file.path)) >>= fun d =>
      if l.isMapping d then .ok d else report (file.path.render ++ " must contain a mapping") := by
  rw [readMapping, readText_of_decode decoded]
  rfl

lemma readMapping_of_error {text : String} {error : LibraryError}
    (decoded : Text.decode? file.content = some text) (failed : l.load text = .error error) :
    readMapping l file = .error (error.failure (unreadable file.path)) := by
  rw [readMapping_of_decode decoded, failed]
  rfl

lemma readMapping_of_loads {d : l.Loaded} (h : Loads l file d) : readMapping l file =
    if l.isMapping d then .ok d else report (file.path.render ++ " must contain a mapping") := by
  obtain ⟨text, decoded, loaded⟩ := h
  rw [readMapping_of_decode decoded, loaded]
  rfl

lemma Specifies.value {a : α} (h : Specifies l file shape a) : readSpec l shape file = .ok a := by
  obtain ⟨d, loads, mapping, valid⟩ := h
  have loaded : readMapping l file = .ok d := by
    rw [readMapping_of_loads loads, if_pos mapping]
  exact bind_ok_iff.2 ⟨d, loaded, mapError_ok_iff.2 valid⟩

/-- What validation says about a mapping is what a file comes to. -/
lemma readSpec_of_error {d : l.Loaded} {error : LibraryError} (loads : Loads l file d)
    (mapping : l.isMapping d = true) (failed : l.validate shape d = .error error) :
    readSpec l shape file = .error (error.failure id) := by
  have loaded : readMapping l file = .ok d := by
    rw [readMapping_of_loads loads, if_pos mapping]
  exact bind_error_iff.2 (.inr ⟨d, loaded, mapError_error_iff.2 ⟨_, failed, rfl⟩⟩)

lemma Misspecifies.value {failure : Failure} (h : Misspecifies l file shape failure) :
    readSpec l shape file = .error failure := by
  cases h with
  | noText invalid =>
    refine bind_error_iff.2 (.inl ?_)
    rw [readMapping, readText_of_invalid invalid]
    rfl
  | malformed decoded failed =>
    exact bind_error_iff.2 (.inl (readMapping_of_error decoded failed))
  | noMapping loads other =>
    refine bind_error_iff.2 (.inl ?_)
    rw [readMapping_of_loads loads, other]
    rfl
  | rejected loads mapping failed => exact readSpec_of_error loads mapping failed
  | raised raises =>
    cases raises with
    | loading decoded failed =>
      exact bind_error_iff.2 (.inl (readMapping_of_error decoded failed))
    | validating loads mapping failed => exact readSpec_of_error loads mapping failed

/-- A file specifies a value, or there is a reason why it does not. -/
lemma specifies_or_misspecifies (l : Libraries) (file : SourceFile) (shape : Shape α) :
    (∃ a, Specifies l file shape a) ∨ ∃ failure, Misspecifies l file shape failure := by
  cases decoded : Text.decode? file.content with
  | none =>
    refine .inr ⟨_, .noText fun valid => ?_⟩
    cases decoded ▸ Text.isSome_decode?_iff.2 valid
  | some text =>
    cases loaded : l.load text with
    | error error =>
      cases error with
      | expected reason => exact .inr ⟨_, .malformed decoded loaded⟩
      | other error => exact .inr ⟨_, .raised (.loading decoded loaded)⟩
    | ok d =>
      have loads : Loads l file d := ⟨text, decoded, loaded⟩
      cases mapping : l.isMapping d with
      | false => exact .inr ⟨_, .noMapping loads mapping⟩
      | true =>
        cases valid : l.validate shape d with
        | ok a => exact .inl ⟨a, d, loads, mapping, valid⟩
        | error error =>
          cases error with
          | expected text => exact .inr ⟨_, .rejected loads mapping valid⟩
          | other error => exact .inr ⟨_, .raised (.validating loads mapping valid)⟩

/-- Which value is read from a file, or how that fails. -/
lemma readSpec_outcome :
    (∀ a, readSpec l shape file = .ok a ↔ Specifies l file shape a) ∧
      ∀ failure, readSpec l shape file = .error failure ↔ Misspecifies l file shape failure :=
  settled_iff (fun _ h => h.value) (fun _ h => h.value) (specifies_or_misspecifies l file shape)

end

/-! ## Templates -/

section

variable {t : FileTree} {directory : Option String}

lemma Provides.value {templates : Templates} (h : Provides t directory templates) :
    readTemplates t directory = .ok templates := by
  cases h with
  | none asked =>
    rw [asked]
    rfl
  | directory asked there read =>
    rw [asked]
    refine mapError_ok_iff.2 ?_
    rw [readDirectory_of_isDirectory there, mapM_ok_iff]
    exact read.imp fun _ _ h => readFile_eq_ok_iff.2 h

lemma Misprovides.value {failure : Failure} (h : Misprovides t directory failure) :
    readTemplates t directory = .error failure := by
  cases h with
  | @noDirectory name asked absent =>
    have read : Templates.readDirectory t (.ofString name) =
        .error (.noDirectory (Path.ofString name).render) := by
      rw [Templates.readDirectory, absent]
      rfl
    rw [asked]
    refine mapError_error_iff.2 ⟨_, read, ?_⟩
    simp [TemplateProblem.report?, Report.ofKind]
  | @undecodable name file content asked there mem invalid =>
    rw [asked]
    refine mapError_error_iff.2 ⟨.undecodable, ?_, rfl⟩
    rw [readDirectory_of_isDirectory there]
    cases read : (t.filesIn (.ofString name)).mapM Templates.readFile with
    | ok templates =>
      obtain ⟨template, -, read⟩ := exists_of_forall₂ (mapM_ok_iff.1 read) mem
      obtain ⟨-, decoded⟩ := readFile_eq_ok_iff.1 read
      exact absurd (Text.isSome_decode?_iff.1 (Option.isSome_of_mem decoded)) invalid
    | error problem =>
      -- the first file that fails need not be this one, but it fails for the same reason
      obtain ⟨first, -, failed⟩ := mapM_error read
      rw [(readFile_error_iff.1 failed).2]

/-- A request has templates, or there is a reason why it has none. -/
lemma provides_or_misprovides (t : FileTree) (directory : Option String) :
    (∃ templates, Provides t directory templates) ∨ ∃ failure, Misprovides t directory failure := by
  cases directory with
  | none => exact .inl ⟨_, .none rfl⟩
  | some name =>
    cases there : t.isDirectory (.ofString name) with
    | false => exact .inr ⟨_, .noDirectory rfl there⟩
    | true =>
      cases read : (t.filesIn (.ofString name)).mapM Templates.readFile with
      | ok templates =>
        have texts := (mapM_ok_iff.1 read).imp fun _ _ h => readFile_eq_ok_iff.1 h
        exact .inl ⟨templates, .directory rfl there texts⟩
      | error problem =>
        obtain ⟨⟨file, content⟩, first, failed⟩ := mapM_error read
        exact .inr ⟨_, .undecodable rfl there first.mem (readFile_error_iff.1 failed).1⟩

/-- Which templates a request has, or how it has none. -/
lemma readTemplates_outcome :
    (∀ templates, readTemplates t directory = .ok templates ↔ Provides t directory templates) ∧
      ∀ failure, readTemplates t directory = .error failure ↔ Misprovides t directory failure :=
  settled_iff (fun _ h => h.value) (fun _ h => h.value) (provides_or_misprovides t directory)

end

end Chartwright.Command
