import Chartwright.Command.Ending
import Chartwright.Proofs.Chart.Refusal
import Chartwright.Proofs.Command.Reading

/-!
# How rendering ends

An application is rendered to the output in stages: both specifications are read, then the
templates, and then the application is compiled and its values are written. The first stage that
fails decides how the program ends. Most failures have a message. Without one the program breaks off
where a library fails in a way that is not provided for, and where a template is not in UTF-8, for
which the program itself does not provide.
-/

namespace Chartwright.Command

open Outcome

/-- A command line asks for the values of an application. Its settings are valid, and the files that
it names can be used. -/
structure AsksForValues (args : List String) (environment : List (String × String)) (t : FileTree)
    (settings : Settings) (r : RenderRequest) (s : RenderSources) : Prop where
  request : ∃ verbose rest, Request.parse? args = some (.command verbose .render rest) ∧
    Task.parse? .render rest = some (.render r)
  settings : loadSettings environment t = .ok settings
  app : ∃ content, t.named? r.app = some (.file content) ∧ s.app = ⟨.ofString r.app, content⟩
  environment : ∃ content, t.named? r.environment = some (.file content) ∧
    s.environment = ⟨.ofString r.environment, content⟩
  templates : s.templates = r.templates
  directory : ∀ name content, r.templates = some name → t.named? name ≠ some (.file content)
  output : r.output = none

section

variable (l : Libraries) (settings : Settings) (t : FileTree) (s : RenderSources)

/-- The sources of an application specify something to be compiled. -/
structure Requests (input : CompileInput) : Prop where
  app : Specifies l s.app ApplicationSpec.shape input.app
  environment : Specifies l s.environment EnvironmentSpec.shape input.environment
  templates : Provides t s.templates input.templates
  overrides : input.overrides = []
  settings : input.settings = settings

/-- How an application is not compiled, by stages. -/
inductive CompilationFails : Failure → Prop where
  | app {failure} :
    Misspecifies l s.app ApplicationSpec.shape failure →
    CompilationFails failure
  | environment {app failure} :
    Specifies l s.app ApplicationSpec.shape app →
    Misspecifies l s.environment EnvironmentSpec.shape failure →
    CompilationFails failure
  | templates {app environment failure} :
    Specifies l s.app ApplicationSpec.shape app →
    Specifies l s.environment EnvironmentSpec.shape environment →
    Misprovides t s.templates failure →
    CompilationFails failure
  | refused {input problem} :
    Requests l settings t s input →
    Refusal input problem →
    CompilationFails (.reported problem.report.message)

/-- How rendering ends. -/
inductive RenderEnds : Ending → Prop where
  | values {input chart text} :
    Requests l settings t s input →
    compile input = .ok chart →
    l.dump chart.values = .ok text →
    RenderEnds ⟨0, .text text⟩
  | unwritten {input chart error} :
    Requests l settings t s input →
    compile input = .ok chart →
    l.dump chart.values = .error error →
    RenderEnds ⟨1, .crash (.raised error)⟩
  | told {message shown} :
    CompilationFails l settings t s (.reported message) →
    l.shown (failureText message) = .ok shown →
    RenderEnds ⟨1, .message shown⟩
  | misprinted {message error} :
    CompilationFails l settings t s (.reported message) →
    l.shown (failureText message) = .error error →
    RenderEnds ⟨1, .crash (.raised error)⟩
  | crashed {escape} :
    CompilationFails l settings t s (.escaped escape) →
    RenderEnds ⟨1, .crash escape⟩

/-- Why rendering may break off: a template is not in UTF-8, or a library fails over one of the
specifications, over the values, or over the marks in a message. -/
inductive Breaks : Prop where
  | template {app environment name file content} :
    Specifies l s.app ApplicationSpec.shape app →
    Specifies l s.environment EnvironmentSpec.shape environment →
    s.templates = some name →
    t.isDirectory (.ofString name) = true →
    (file, content) ∈ t.filesIn (.ofString name) →
    ¬ content.IsValidUTF8 →
    Breaks
  | app {error} :
    Raises l s.app ApplicationSpec.shape error →
    Breaks
  | environment {app error} :
    Specifies l s.app ApplicationSpec.shape app →
    Raises l s.environment EnvironmentSpec.shape error →
    Breaks
  | values {input chart error} :
    Requests l settings t s input →
    compile input = .ok chart →
    l.dump chart.values = .error error →
    Breaks
  | marks {message error} :
    CompilationFails l settings t s (.reported message) →
    l.shown (failureText message) = .error error →
    Breaks

end

/-- A clean end shows values or a message. -/
inductive Ending.Clean : Ending → Prop where
  | values {text} :
    Clean ⟨0, .text text⟩
  | message {shown} :
    Clean ⟨1, .message shown⟩

/-! ## Compilation -/

section

variable {l : Libraries} {settings : Settings} {t : FileTree} {r : RenderRequest}
  {s : RenderSources}

/-- An application is not compiled for a reason in one of the stages. -/
lemma compileSources_error_iff {failure : Failure} :
    compileSources l settings t s = .error failure ↔ CompilationFails l settings t s failure := by
  unfold compileSources
  rw [bind_error_iff, readSpec_outcome.2]
  simp only [readSpec_outcome.1, bind_error_iff, readSpec_outcome.2, readTemplates_outcome.1,
    readTemplates_outcome.2, mapError_error_iff]
  constructor
  · rintro (failed | ⟨app, ha, failed | ⟨environment, he, failed | ⟨templates, ht, problem,
      failed, rfl⟩⟩⟩)
    · exact .app failed
    · exact .environment ha failed
    · exact .templates ha he failed
    · exact .refused ⟨ha, he, ht, rfl, rfl⟩ (compile_error failed)
  · intro h
    cases h with
    | app failed => exact .inl failed
    | environment ha failed => exact .inr ⟨_, ha, .inl failed⟩
    | templates ha he failed => exact .inr ⟨_, ha, .inr ⟨_, he, .inl failed⟩⟩
    | @refused input problem requests refusal =>
      cases input
      obtain ⟨ha, he, ht, rfl, rfl⟩ := requests
      have failed := compile_error_iff.2 refusal
      exact .inr ⟨_, ha, .inr ⟨_, he, .inr ⟨_, ht, _, failed, rfl⟩⟩⟩

/-- An application compiles to the chart of what its sources specify. -/
lemma compileSources_ok_iff {chart : Chart} :
    compileSources l settings t s = .ok chart ↔
      ∃ input, Requests l settings t s input ∧ compile input = .ok chart := by
  unfold compileSources
  simp only [bind_ok_iff, readSpec_outcome.1, readTemplates_outcome.1, mapError_ok_iff]
  constructor
  · rintro ⟨app, ha, environment, he, templates, ht, compiled⟩
    exact ⟨_, ⟨ha, he, ht, rfl, rfl⟩, compiled⟩
  · rintro ⟨input, requests, compiled⟩
    cases input
    obtain ⟨ha, he, ht, rfl, rfl⟩ := requests
    exact ⟨_, ha, _, he, _, ht, compiled⟩

/-- Whether the files can be used is checked before. -/
lemma CompilationFails.not_misused : ¬ CompilationFails l settings t s .misused := by
  intro h
  cases h with
  | app failed | environment _ failed | templates _ _ failed => cases failed

/-- What escapes is the error of a library, or that a template is not in UTF-8. -/
lemma CompilationFails.breaks {escape : Escape}
    (h : CompilationFails l settings t s (.escaped escape)) : Breaks l settings t s := by
  cases h with
  | app failed =>
    cases failed with
    | raised raises => exact .app raises
  | environment app failed =>
    cases failed with
    | raised raises => exact .environment app raises
  | templates app environment failed =>
    cases failed with
    | undecodable asked there mem invalid => exact .template app environment asked there mem invalid

/-! ## Endings -/

variable {args : List String} {environment : List (String × String)} {ending : Ending}

lemma AsksForValues.findSources_eq (asked : AsksForValues args environment t settings r s) :
    findSources t r = .ok s := by
  obtain ⟨_, app, happ⟩ := asked.app
  obtain ⟨_, env, henv⟩ := asked.environment
  have templates : refuseFile t r.templates = .ok () := by
    unfold refuseFile
    split
    case h_1 content h =>
      obtain ⟨name, hn, h⟩ := Option.bind_eq_some_iff.1 h
      exact absurd h (asked.directory name content hn)
    case h_2 => rfl
  have sources : s = ⟨s.app, s.environment, r.templates⟩ := by
    rw [← asked.templates]
  rw [sources, happ, henv]
  simp only [findSources, requireFile, app, env, templates, asked.output]
  rfl

lemma render_of_sources (found : findSources t r = .ok s) (output : r.output = none) :
    render l settings t r = (t, compileSources l settings t s >>= showValues l) := by
  have compiled : findSources t r >>= compileSources l settings t =
      compileSources l settings t s := by
    rw [found]
    rfl
  rw [render, compiled, output]
  cases compileSources l settings t s <;> rfl

/-- A command line that asks for values changes no file, and its sources decide about the rest. -/
lemma AsksForValues.run_eq (asked : AsksForValues args environment t settings r s) :
    run l args environment t = (t, compileSources l settings t s >>= showValues l) := by
  obtain ⟨verbose, rest, hr, ht⟩ := asked.request
  simp only [run, hr, asked.settings, ht, runTask]
  exact render_of_sources asked.findSources_eq asked.output

lemma RenderEnds.value (asked : AsksForValues args environment t settings r s)
    (h : RenderEnds l settings t s ending) : l.ending (run l args environment t).2 = ending := by
  rw [asked.run_eq]
  cases h with
  | values requests compiled written | unwritten requests compiled written =>
    rw [compileSources_ok_iff.2 ⟨_, requests, compiled⟩]
    show l.ending (showValues l _) = _
    rw [showValues, written]
    rfl
  | told failed shown | misprinted failed shown =>
    rw [compileSources_error_iff.2 failed]
    show Ending.ofShown 1 ((l.shown (failureText _)).map .message) = _
    rw [shown]
    rfl
  | crashed failed =>
    rw [compileSources_error_iff.2 failed]
    rfl

/-- Rendering ends in one of the ways. -/
lemma exists_renderEnds (l : Libraries) (settings : Settings) (t : FileTree) (s : RenderSources) :
    ∃ ending, RenderEnds l settings t s ending := by
  cases outcome : compileSources l settings t s with
  | ok chart =>
    obtain ⟨input, requests, compiled⟩ := compileSources_ok_iff.1 outcome
    cases written : l.dump chart.values with
    | ok text => exact ⟨_, .values requests compiled written⟩
    | error error => exact ⟨_, .unwritten requests compiled written⟩
  | error failure =>
    have failed := compileSources_error_iff.1 outcome
    cases failure with
    | misused => exact absurd failed CompilationFails.not_misused
    | reported message =>
      cases shown : l.shown (failureText message) with
      | ok text => exact ⟨_, .told failed shown⟩
      | error error => exact ⟨_, .misprinted failed shown⟩
    | escaped escape => exact ⟨_, .crashed failed⟩

/-- What breaks rendering makes an end of it that is not clean. -/
lemma Breaks.ends (h : Breaks l settings t s) :
    ∃ ending, RenderEnds l settings t s ending ∧ ¬ ending.Clean := by
  cases h with
  | template app environment asked there mem invalid =>
    exact ⟨_, .crashed (.templates app environment (.undecodable asked there mem invalid)), nofun⟩
  | app raises => exact ⟨_, .crashed (.app (.raised raises)), nofun⟩
  | environment app raises => exact ⟨_, .crashed (.environment app (.raised raises)), nofun⟩
  | values requests compiled failed => exact ⟨_, .unwritten requests compiled failed, nofun⟩
  | marks failed wrong => exact ⟨_, .misprinted failed wrong, nofun⟩

lemma RenderEnds.clean_or_breaks (h : RenderEnds l settings t s ending) :
    ending.Clean ∨ Breaks l settings t s := by
  cases h with
  | values => exact .inl .values
  | unwritten requests compiled failed => exact .inr (.values requests compiled failed)
  | told => exact .inl .message
  | misprinted failed wrong => exact .inr (.marks failed wrong)
  | crashed failed => exact .inr failed.breaks

/-- Rendering to the output changes no file, and ends in the one way that the files and the
libraries lead to. It ends cleanly, with values or with a message, unless there is one of the
reasons to break off. -/
theorem render_ends (asked : AsksForValues args environment t settings r s) (l : Libraries) :
    (run l args environment t).1 = t ∧
      (∀ ending, l.ending (run l args environment t).2 = ending ↔
        RenderEnds l settings t s ending) ∧
      ((l.ending (run l args environment t).2).Clean ↔ ¬ Breaks l settings t s) := by
  obtain ⟨ending, ends⟩ := exists_renderEnds l settings t s
  have value := ends.value asked
  refine ⟨by rw [asked.run_eq], fun ending' => ⟨?_, fun h => h.value asked⟩, ?_⟩
  · rintro rfl
    rwa [value]
  · rw [value]
    constructor
    · intro clean broken
      -- what breaks rendering leads to an ending of its own, but there is only this one
      obtain ⟨ending', ends', unclean⟩ := broken.ends
      rw [← value, ends'.value asked] at clean
      exact unclean clean
    · exact fun unbroken => ends.clean_or_breaks.resolve_right unbroken

end

/-- The files of a shop with a template. -/
def shopFiles (template : ByteArray) : FileTree := .ofEntries [
  ("app.yaml", .file (Text.encode "name: shop\n")),
  ("env.yaml", .file (Text.encode "name: production\n")),
  ("templates/web.yaml", .file template)]

/-- The command line that renders the shop. -/
def shopLine : List String := ["render", "app.yaml", "env.yaml", "-t", "templates"]

/-- What the command line of the shop asks for. -/
def shopRequest : RenderRequest := ⟨"app.yaml", "env.yaml", some "templates", none⟩

/-- What the shop is rendered from. -/
def shopSources : RenderSources where
  app := ⟨.ofString "app.yaml", Text.encode "name: shop\n"⟩
  environment := ⟨.ofString "env.yaml", Text.encode "name: production\n"⟩
  templates := some "templates"

/-- The command line of the shop asks for its values. -/
lemma shopLine_asks (template : ByteArray) :
    AsksForValues shopLine [] (shopFiles template) .default shopRequest shopSources where
  request := ⟨false, shopLine.tail, by decide +kernel, by decide +kernel⟩
  settings := by rfl
  app := ⟨_, by rfl, by rfl⟩
  environment := ⟨_, by rfl, by rfl⟩
  templates := rfl
  directory := by
    rintro name content named file
    cases named
    have directory : (shopFiles template).named? "templates" = some .directory := by rfl
    cases directory.symm.trans file
  output := rfl

/-- How rendering the shop ends. -/
def shopEnding (template : ByteArray) : Ending :=
  Libraries.own.ending (run .own shopLine [] (shopFiles template)).2

/-- The shop is rendered with a template in UTF-8. -/
theorem shop_rendered : ∃ input chart,
    AsksForValues shopLine [] (shopFiles (Text.encode "é\n")) .default shopRequest shopSources ∧
      Requests .own .default (shopFiles (Text.encode "é\n")) shopSources input ∧
      compile input = .ok chart ∧
      shopEnding (Text.encode "é\n") = ⟨0, .text chart.valuesYaml⟩ := by
  have asked := shopLine_asks (Text.encode "é\n")
  obtain ⟨-, ends, -⟩ := render_ends asked .own
  have ended := (ends _).1 rfl
  have status : (shopEnding (Text.encode "é\n")).status = 0 := by decide +kernel
  rw [← shopEnding] at ended
  generalize shopEnding (Text.encode "é\n") = ending at ended status ⊢
  cases ended with
  | values requests compiled written =>
    cases written
    exact ⟨_, _, asked, requests, compiled, rfl⟩
  | unwritten | told | misprinted | crashed => cases status

/-- The program crashes where the template of the shop is in another encoding. -/
theorem shop_crashes :
    AsksForValues shopLine [] (shopFiles ⟨#[0xe9]⟩) .default shopRequest shopSources ∧
      shopEnding ⟨#[0xe9]⟩ = ⟨1, .crash .undecodable⟩ ∧ ¬ (shopEnding ⟨#[0xe9]⟩).Clean := by
  have crash : shopEnding ⟨#[0xe9]⟩ = ⟨1, .crash .undecodable⟩ := by decide +kernel
  refine ⟨shopLine_asks _, crash, ?_⟩
  rw [crash]
  exact nofun

end Chartwright.Command
