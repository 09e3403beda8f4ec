import Chartwright.Chart.Deploy
import Chartwright.Proofs.Chart.Inversion
import Chartwright.Proofs.Chart.Refusal

/-!
# What a deployment does

Which stage of a deployment ends it, what the installer is asked to do, and what is reported: only a
failure of the installer can be worth a second attempt.
-/

namespace Chartwright

variable {σ : Type}

/-- An installer that also keeps a list of the charts that it is called with. -/
def Installer.recorded (install : Installer σ) : Installer (σ × List (Chart × ChartConfig)) :=
  fun chart config (state, calls) =>
    let (state, error) := install chart config state
    ((state, calls ++ [(chart, config)]), error)

/-- The report of an installation that failed for a reason of its own. -/
def installFailure (app : String) (error : ForeignError) : Report where
  kind := .install
  message := "failed to install chart " ++ Text.quoted app ++ ": " ++ error.text.getD ""
  category := .install
  retryable := true
  context := { FailureContext.none with app := some (.text app) }
  cause := some (error.text.getD "")

/-- What is reported of a deployment that ends without a chart. -/
inductive Reports : DeployProblem → Report → Prop where
  | notStored {name} :
    Reports (.templates (.notStored name))
      (.ofKind .templatesNotFound ("templates " ++ Text.quoted name ++ " not found"))
  | refused {problem} :
    Reports (.compile problem) problem.report
  | rejected {report} :
    Reports (.refused report) report
  | failed {app error} :
    Reports (.installFailed app error) (installFailure app error)

/-- The installer failed in a way of its own, or reported that a second attempt can help. -/
def FailsRetryably (install : Installer σ) (state : σ) (calls : List (Chart × ChartConfig)) :
    Prop :=
  ∃ chart config error, (chart, config) ∈ calls ∧ (install chart config state).2 = some error ∧
    ((∃ e, error = .foreign e) ∨ error.retryable = true)

section

variable (app : ApplicationSpec) (environment : EnvironmentSpec) (store : TemplateStore)
  (install : Installer σ) (settings : Settings) (state : σ)

/-- A chart is compiled with the stored templates of the environment. -/
def CompilesTo (chart : Chart) : Prop :=
  ∃ templates, Dict.get? store environment.templatesName = some templates ∧
    compile ⟨app, environment, templates, [], settings⟩ = .ok chart

/-- How a deployment ends: with which calls of the installer, in which state, and with a chart or
a problem. -/
inductive Deploys : List (Chart × ChartConfig) → σ → Except DeployProblem Chart → Prop where
  | notStored :
    Dict.get? store environment.templatesName = none →
    Deploys [] state (.error (.templates (.notStored environment.templatesName)))
  | refused {templates problem} :
    Dict.get? store environment.templatesName = some templates →
    compile ⟨app, environment, templates, [], settings⟩ = .error problem →
    Deploys [] state (.error (.compile problem))
  | installed {chart state'} :
    CompilesTo app environment store settings chart →
    install chart (.ofApplication app settings) state = (state', none) →
    Deploys [(chart, .ofApplication app settings)] state' (.ok chart)
  | rejected {chart state' report} :
    CompilesTo app environment store settings chart →
    install chart (.ofApplication app settings) state = (state', some (.report report)) →
    Deploys [(chart, .ofApplication app settings)] state' (.error (.refused report))
  | failed {chart state' error} :
    CompilesTo app environment store settings chart →
    install chart (.ofApplication app settings) state = (state', some (.foreign error)) →
    Deploys [(chart, .ofApplication app settings)] state' (.error (.installFailed app.name error))

end

/-! ## Reports -/

lemma report?_of_reports {problem : DeployProblem} {report : Report} (h : Reports problem report) :
    problem.report? = some report := by
  cases h with
  | notStored => rfl
  | refused => rfl
  | rejected => rfl
  | @failed app error =>
    have message : "failed to install chart " ++ Text.quoted app ++ ": " ++
        (AnyError.foreign error).text ≠ "" := by
      intro e
      have length := congrArg String.length e
      simp at length
    simp only [DeployProblem.report?, Report.ofKind, if_neg message]
    rfl

lemma CompileProblem.report_retryable (problem : CompileProblem) :
    problem.report.retryable = false := by
  cases problem <;> rfl

/-! ## Stages -/

variable {app : ApplicationSpec} {environment : EnvironmentSpec} {store : TemplateStore}
  {install : Installer σ} {settings : Settings} {state state' : σ}

lemma read_of_get? {name : String} {templates : Templates}
    (h : Dict.get? store name = some templates) : store.read name = .ok templates := by
  rw [TemplateStore.read, h]

lemma deploy_notStored (h : Dict.get? store environment.templatesName = none)
    (context : LogContext) :
    (deploy app environment store.read install settings state context).1 =
      (state, .error (.templates (.notStored environment.templatesName))) := by
  unfold deploy
  rw [TemplateStore.read, h]
  rfl

lemma deploy_refused {templates : Templates} {problem : CompileProblem}
    (stored : Dict.get? store environment.templatesName = some templates)
    (h : compile ⟨app, environment, templates, [], settings⟩ = .error problem)
    (context : LogContext) :
    (deploy app environment store.read install settings state context).1 =
      (state, .error (.compile problem)) := by
  rw [← compileLogged_value _ context] at h
  unfold deploy
  rw [read_of_get? stored]
  exact Logged.Gives.bind_value h (Logged.gives_pure _)

/-- What comes of a chart behind its installation. -/
def installationResult (name : String) (chart : Chart) :
    σ × Option AnyError → σ × Except DeployProblem Chart
  | (state, none) => (state, .ok chart)
  | (state, some (.report report)) => (state, .error (.refused report))
  | (state, some (.foreign error)) => (state, .error (.installFailed name error))

lemma gives_installChart (install : Installer σ) (settings : Settings) (chart : Chart) (state : σ) :
    (installChart install settings chart state).Gives
      (installationResult chart.app.name chart
        (install chart (.ofApplication chart.app settings) state)) := by
  unfold installChart
  simp only
  split
  case h_1 h =>
    rw [h]
    exact (Logged.gives_write _).bind (Logged.gives_pure _)
  case h_2 h =>
    rw [h]
    exact Logged.gives_pure _
  case h_3 h =>
    rw [h]
    exact (Logged.gives_write _).bind (Logged.gives_pure _)

lemma deploy_compiled {chart : Chart} (h : CompilesTo app environment store settings chart)
    (context : LogContext) :
    (deploy app environment store.read install settings state context).1 =
      installationResult app.name chart (install chart (.ofApplication app settings) state) := by
  obtain ⟨templates, stored, h⟩ := h
  have same : chart.app = app := by
    obtain ⟨ingress, deployments, -, -, rfl⟩ := compile_inv h
    rfl
  rw [← compileLogged_value _ context] at h
  unfold deploy
  rw [read_of_get? stored]
  have gives := gives_installChart install settings chart state
  rw [same] at gives
  exact Logged.Gives.bind_value h gives

/-! ## Deployments -/

/-- Every deployment ends in one of the ways. -/
lemma exists_deploys (app : ApplicationSpec) (environment : EnvironmentSpec) (store : TemplateStore)
    (install : Installer σ) (settings : Settings) (state : σ) :
    ∃ calls state' result,
      Deploys app environment store install settings state calls state' result := by
  cases stored : Dict.get? store environment.templatesName with
  | none => exact ⟨_, _, _, .notStored stored⟩
  | some templates =>
    cases compiled : compile ⟨app, environment, templates, [], settings⟩ with
    | error problem => exact ⟨_, _, _, .refused stored compiled⟩
    | ok chart =>
      have h : CompilesTo app environment store settings chart := ⟨templates, stored, compiled⟩
      rcases e : install chart (.ofApplication app settings) state with ⟨state', error⟩
      cases error with
      | none => exact ⟨_, _, _, .installed h e⟩
      | some error =>
        cases error with
        | report report => exact ⟨_, _, _, .rejected h e⟩
        | foreign error => exact ⟨_, _, _, .failed h e⟩

variable {calls : List (Chart × ChartConfig)} {result : Except DeployProblem Chart}

lemma Deploys.value (h : Deploys app environment store install settings state calls state' result)
    (context : LogContext) :
    (deploy app environment store.read install settings state context).1 = (state', result) := by
  cases h with
  | notStored stored => exact deploy_notStored stored context
  | refused stored compiled => exact deploy_refused stored compiled context
  | installed h e =>
    rw [deploy_compiled h, e]
    rfl
  | rejected h e =>
    rw [deploy_compiled h, e]
    rfl
  | failed h e =>
    rw [deploy_compiled h, e]
    rfl

/-- The calls are those that the installer gets. -/
lemma Deploys.recorded
    (h : Deploys app environment store install settings state calls state' result)
    (context : LogContext) :
    (deploy app environment store.read install.recorded settings (state, []) context).1 =
      ((state', calls), result) := by
  cases h with
  | notStored stored => exact deploy_notStored stored context
  | refused stored compiled => exact deploy_refused stored compiled context
  | installed h e =>
    rw [deploy_compiled h, Installer.recorded, e]
    rfl
  | rejected h e =>
    rw [deploy_compiled h, Installer.recorded, e]
    rfl
  | failed h e =>
    rw [deploy_compiled h, Installer.recorded, e]
    rfl

lemma CompilesTo.unique {chart chart' : Chart}
    (h : CompilesTo app environment store settings chart)
    (h' : CompilesTo app environment store settings chart') : chart = chart' := by
  obtain ⟨templates, stored, compiled⟩ := h
  obtain ⟨templates', stored', compiled'⟩ := h'
  rw [stored] at stored'
  cases stored'
  rw [compiled] at compiled'
  exact Except.ok.inj compiled'

/-- Where there is a chart to install, the installer is called with it, once. -/
lemma Deploys.calls_of_compilesTo
    (h : Deploys app environment store install settings state calls state' result) {chart : Chart}
    (compiles : CompilesTo app environment store settings chart) :
    calls = [(chart, .ofApplication app settings)] := by
  cases h with
  | notStored stored =>
    obtain ⟨templates, stored', -⟩ := compiles
    rw [stored] at stored'
    cases stored'
  | refused stored compiled =>
    obtain ⟨templates, stored', compiled'⟩ := compiles
    rw [stored] at stored'
    cases stored'
    rw [compiled] at compiled'
    cases compiled'
  | installed h _ => rw [h.unique compiles]
  | rejected h _ => rw [h.unique compiles]
  | failed h _ => rw [h.unique compiles]

lemma Deploys.calls_eq_nil
    (h : Deploys app environment store install settings state calls state' result)
    (none : ∀ chart, ¬ CompilesTo app environment store settings chart) : calls = [] := by
  cases h with
  | notStored => rfl
  | refused => rfl
  | installed h _ => exact absurd h (none _)
  | rejected h _ => exact absurd h (none _)
  | failed h _ => exact absurd h (none _)

lemma failsRetryably_nil : ¬ FailsRetryably install state [] := by
  rintro ⟨_, _, _, mem, -⟩
  cases mem

lemma failsRetryably_iff {chart : Chart} {config : ChartConfig} {error : AnyError}
    (h : install chart config state = (state', some error)) :
    FailsRetryably install state [(chart, config)] ↔
      (∃ e, error = .foreign e) ∨ error.retryable = true := by
  constructor
  · rintro ⟨_, _, error', mem, raised, worth⟩
    cases List.mem_singleton.1 mem
    rw [h] at raised
    cases raised
    exact worth
  · exact fun worth => ⟨chart, config, error, List.mem_singleton_self _, by rw [h], worth⟩

/-- What is raised is reported as it is said, and as worth a second attempt just where the installer
has failed so. -/
lemma Deploys.reported
    (h : Deploys app environment store install settings state calls state' result)
    {problem : DeployProblem} (raised : result = .error problem) :
    ∃ report, Reports problem report ∧
      ((AnyError.report report).retryable = true ↔ FailsRetryably install state calls) := by
  cases h with
  | notStored =>
    cases raised
    refine ⟨_, .notStored, ?_⟩
    exact iff_of_false Bool.false_ne_true failsRetryably_nil
  | @refused _ problem =>
    cases raised
    refine ⟨_, .refused, ?_⟩
    rw [AnyError.retryable, problem.report_retryable]
    exact iff_of_false Bool.false_ne_true failsRetryably_nil
  | installed => cases raised
  | rejected _ e =>
    cases raised
    refine ⟨_, .rejected, ?_⟩
    rw [failsRetryably_iff e]
    simp
  | failed _ e =>
    cases raised
    refine ⟨_, .failed, ?_⟩
    rw [failsRetryably_iff e]
    simp [AnyError.retryable, installFailure]

/-- A deployment calls the installer where the templates of the environment are stored and the
application compiles with them, and then once, with the chart and its configuration. It ends in one
of the ways of `Deploys`, and what it raises is worth a second attempt just where the installer
failed in a way of its own or said so. -/
theorem deployment_outcome (app : ApplicationSpec) (environment : EnvironmentSpec)
    (store : TemplateStore) (install : Installer σ) (settings : Settings) (state : σ)
    (context : LogContext) :
    ∃ calls state' result,
      (deploy app environment store.read install.recorded settings (state, []) context).1 =
          ((state', calls), result) ∧
        (deploy app environment store.read install settings state context).1 = (state', result) ∧
        Deploys app environment store install settings state calls state' result ∧
        (∀ chart, CompilesTo app environment store settings chart →
          calls = [(chart, .ofApplication app settings)]) ∧
        ((∀ chart, ¬ CompilesTo app environment store settings chart) → calls = []) ∧
        ∀ problem, result = .error problem → ∃ report, problem.report? = some report ∧
          Reports problem report ∧
          ((AnyError.report report).retryable = true ↔ FailsRetryably install state calls) := by
  obtain ⟨calls, state', result, h⟩ :=
    exists_deploys app environment store install settings state
  refine ⟨calls, state', result, h.recorded context, h.value context, h,
    fun _ => h.calls_of_compilesTo, h.calls_eq_nil, ?_⟩
  intro problem raised
  obtain ⟨report, reports, retryable⟩ := h.reported raised
  exact ⟨report, report?_of_reports reports, reports, retryable⟩

end Chartwright
