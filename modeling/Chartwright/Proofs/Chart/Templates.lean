import Chartwright.Proofs.Chart.Files
import Chartwright.Proofs.Chart.Inversion
import Chartwright.Proofs.Chart.Refusal
import Chartwright.Proofs.Files.Tree
import Chartwright.Proofs.Text.Bytes
import Chartwright.Template.Store

/-!
# Templates from a directory

The templates of a chart are the files of the directory that they are read from, under the same
names. Their bytes are the same where the files have no carriage returns; all of these are turned
into newlines when the files are read.
-/

namespace Chartwright

open FileTree Outcome

/-- The files of a chart have the files of a directory as templates. -/
structure CopiesTemplates (t : FileTree) (p : Path) (files : List (String × ByteArray)) : Prop where
  distinct : (files.map (·.1)).Nodup
  exactly : ∀ name bytes, ("templates/" ++ name, bytes) ∈ files ↔
    ∃ content, t.HasFile p name content ∧ bytes = Text.unified content
  verbatim : ∀ name content, t.HasFile p name content →
    (("templates/" ++ name, content) ∈ files ↔ 13 ∉ content.data)

variable {t : FileTree} {p : Path} {templates : Templates}

/-! ## Reading -/

lemma readFile_eq_ok_iff {name name' text : String} {content : ByteArray} :
    Templates.readFile (name, content) = .ok (name', text) ↔
      name = name' ∧ Text.decode? content = some text := by
  unfold Templates.readFile
  cases Text.decode? content <;> simp

lemma readFile_error_iff {file : String × ByteArray} {problem : TemplateProblem} :
    Templates.readFile file = .error problem ↔ ¬ file.2.IsValidUTF8 ∧ problem = .undecodable := by
  unfold Templates.readFile
  rw [← Text.isSome_decode?_iff]
  cases Text.decode? file.2 <;> simp [eq_comm]

lemma readDirectory_of_isDirectory (directory : t.isDirectory p = true) :
    Templates.readDirectory t p = (t.filesIn p).mapM Templates.readFile := by
  rw [Templates.readDirectory, directory]
  rfl

/-- A directory can be read where all of its files are in UTF-8. -/
lemma exists_readDirectory (sound : t.Sound) (directory : t.isDirectory p = true)
    (valid : ∀ name content, t.HasFile p name content → content.IsValidUTF8) :
    ∃ templates, Templates.readDirectory t p = .ok templates := by
  rw [readDirectory_of_isDirectory directory]
  cases read : (t.filesIn p).mapM Templates.readFile with
  | ok templates => exact ⟨templates, rfl⟩
  | error problem =>
    obtain ⟨⟨name, content⟩, first, failed⟩ := mapM_error read
    have utf8 := valid name content ((mem_filesIn_iff sound).1 first.mem)
    exact absurd utf8 (readFile_error_iff.1 failed).1

/-- The templates are the decoded files of the directory. -/
lemma mem_readDirectory_iff (sound : t.Sound) (directory : t.isDirectory p = true)
    (read : Templates.readDirectory t p = .ok templates) {name text : String} :
    (name, text) ∈ templates ↔
      ∃ content, t.HasFile p name content ∧ Text.decode? content = some text := by
  rw [readDirectory_of_isDirectory directory] at read
  obtain ⟨g, rfl, decoded⟩ := exists_map_of_mapM read
  rw [List.mem_map]
  constructor
  · rintro ⟨⟨name', content⟩, mem, e⟩
    obtain ⟨rfl, text⟩ := readFile_eq_ok_iff.1 ((decoded _ mem).trans (congrArg Except.ok e))
    exact ⟨content, (mem_filesIn_iff sound).1 mem, text⟩
  · rintro ⟨content, file, text⟩
    have mem := (mem_filesIn_iff sound).2 file
    have e := (decoded _ mem).symm.trans (readFile_eq_ok_iff.2 ⟨rfl, text⟩)
    exact ⟨_, mem, Except.ok.inj e⟩

lemma nodup_readDirectory (sound : t.Sound) (directory : t.isDirectory p = true)
    (read : Templates.readDirectory t p = .ok templates) : (Dict.keys templates).Nodup := by
  rw [readDirectory_of_isDirectory directory] at read
  obtain ⟨g, rfl, decoded⟩ := exists_map_of_mapM read
  have names : Dict.keys ((t.filesIn p).map g) = (t.filesIn p).map (·.1) := by
    rw [Dict.keys, List.map_map]
    refine List.map_congr_left fun f mem => ?_
    exact (readFile_eq_ok_iff.1 (decoded f mem)).1.symm
  rw [names]
  exact nodup_filesIn sound p

/-! ## Copying -/

/-- A chart with the templates of a directory has the files of the directory. -/
lemma copies_of_readDirectory (sound : t.Sound) (directory : t.isDirectory p = true)
    (valid : ∀ name content, t.HasFile p name content → content.IsValidUTF8)
    {c : Chart} (read : Templates.readDirectory t p = .ok c.templates) (config : ChartConfig) :
    CopiesTemplates t p (c.buffered config) := by
  have distinct := nodup_readDirectory sound directory read
  have exactly name bytes : ("templates/" ++ name, bytes) ∈ c.buffered config ↔
      ∃ content, t.HasFile p name content ∧ bytes = Text.unified content := by
    rw [Chart.mem_buffered_template_iff distinct]
    constructor
    · rintro ⟨text, mem, rfl⟩
      obtain ⟨content, file, decoded⟩ := (mem_readDirectory_iff sound directory read).1 mem
      exact ⟨content, file, Text.encode_of_decode? decoded⟩
    · rintro ⟨content, file, rfl⟩
      have utf8 := Text.isSome_decode?_iff.2 (valid name content file)
      obtain ⟨text, decoded⟩ := Option.isSome_iff_exists.1 utf8
      exact ⟨text, (mem_readDirectory_iff sound directory read).2 ⟨content, file, decoded⟩,
        Text.encode_of_decode? decoded⟩
  constructor
  case distinct => exact Chart.nodup_keys_buffered distinct config
  case exactly => exact exactly
  case verbatim =>
    intro name content file
    rw [exactly, ← Text.unified_eq_self_iff]
    constructor
    · rintro ⟨content', file', e⟩
      rw [file.unique file'] at e ⊢
      exact e.symm
    · exact fun same => ⟨content, file, same.symm⟩

/-- A directory of files in UTF-8 can be read, and every application that compiles with what was
read gets its files as templates, with newlines in place of carriage returns and all else as it
is. -/
theorem templates_copied (sound : t.Sound) (directory : t.isDirectory p = true)
    (valid : ∀ name content, t.HasFile p name content → content.IsValidUTF8) :
    ∃ templates, Templates.readDirectory t p = .ok templates ∧
      ∀ (input : CompileInput) context chart config, input.templates = templates →
        (compileLogged input context).1 = .ok chart →
        CopiesTemplates t p (chart.buffered config) := by
  obtain ⟨templates, read⟩ := exists_readDirectory sound directory valid
  refine ⟨templates, read, ?_⟩
  rintro input context chart config rfl compiled
  rw [compileLogged_value] at compiled
  obtain ⟨ingress, deployments, -, -, rfl⟩ := compile_inv compiled
  exact copies_of_readDirectory sound directory valid read config

/-- Two directories of templates. The line of the file in the second one ends in a carriage return
and a newline. -/
def templateDirectories : FileTree :=
  .ofEntries [("plain/web.yaml", .file (Text.encode "kind: Service\n")),
    ("plain/partials/notes.txt", .file (Text.encode "notes")),
    ("other/web.yaml", .file (Text.encode "kind: Service\x0d\n"))]

lemma templateDirectories_sound : templateDirectories.Sound := by decide +kernel

/-- The files of a directory are in UTF-8 where all that are listed can be decoded. -/
lemma valid_of_filesIn (sound : t.Sound)
    (decoded : ∀ f ∈ t.filesIn p, (Text.decode? f.2).isSome = true) (name : String)
    (content : ByteArray) (file : t.HasFile p name content) : content.IsValidUTF8 :=
  Text.isSome_decode?_iff.1 (decoded _ ((mem_filesIn_iff sound).2 file))

/-- The file of the first directory is copied as it is. -/
theorem plainTemplates_copied : ∃ templates,
    Templates.readDirectory templateDirectories (.ofString "plain") = .ok templates ∧
      (compileLogged (bareInput templates) []).1 = .ok (bareChart templates) ∧
      CopiesTemplates templateDirectories (.ofString "plain")
        ((bareChart templates).buffered (.ofApplication bareShop .default)) := by
  have sound := templateDirectories_sound
  obtain ⟨templates, read, copied⟩ := templates_copied (p := .ofString "plain") sound
    (by decide +kernel) (valid_of_filesIn sound (by decide +kernel))
  have compiled : (compileLogged (bareInput templates) []).1 = .ok (bareChart templates) := by
    rw [compileLogged_value, compile_bareInput]
  exact ⟨templates, read, compiled, copied _ _ _ _ rfl compiled⟩

/-- The file of the second directory is copied without its carriage return. -/
theorem carriageReturn_lost : ∃ templates chart content,
    Templates.readDirectory templateDirectories (.ofString "other") = .ok templates ∧
      (∀ name content, templateDirectories.HasFile (.ofString "other") name content →
        content.IsValidUTF8) ∧
      (compileLogged (bareInput templates) []).1 = .ok chart ∧
      templateDirectories.HasFile (.ofString "other") "web.yaml" content ∧
      ("templates/web.yaml", content) ∉ chart.buffered (.ofApplication bareShop .default) ∧
      ("templates/web.yaml", Text.encode "kind: Service\n") ∈
        chart.buffered (.ofApplication bareShop .default) := by
  have sound := templateDirectories_sound
  have valid := valid_of_filesIn (p := .ofString "other") sound (by decide +kernel)
  have read : Templates.readDirectory templateDirectories (.ofString "other") =
      .ok [("web.yaml", "kind: Service\n")] := by decide +kernel
  have distinct : (Dict.keys (bareChart [("web.yaml", "kind: Service\n")]).templates).Nodup := by
    decide
  have copied :=
    Chart.mem_buffered_template_iff distinct (.ofApplication bareShop .default) "web.yaml"
  refine ⟨_, bareChart [("web.yaml", "kind: Service\n")], Text.encode "kind: Service\x0d\n", read,
    valid, ?_, ⟨["other"], by decide +kernel, by decide +kernel⟩, ?_, ?_⟩
  · rw [compileLogged_value, compile_bareInput]
  · intro verbatim
    obtain ⟨text, mem, e⟩ := (copied _).1 verbatim
    obtain ⟨-, rfl⟩ := Prod.mk.inj (List.mem_singleton.1 mem)
    exact absurd (congrArg ByteArray.size e) (by decide)
  · exact (copied _).2 ⟨_, List.mem_cons_self, rfl⟩

end Chartwright
