import Chartwright.Proofs.Chart.Inversion
import Chartwright.Proofs.Chart.Refusal
import Chartwright.Proofs.Chart.Values
import Chartwright.Proofs.Spec.Admission

/-!
# Ports of compiled processes

The ports of a process show up in several places of its values: as container and service ports, as
the public port, in its variables and in its probes. All of them come from one list of pairs of a
service port and the container port behind it.
-/

namespace Chartwright

/-- A number that a port can have. -/
def IsPort (n : Int) : Prop := 1 ≤ n ∧ n ≤ 65535

/-- An application is compiled with specifications that pass validation. -/
structure CompileInput.Admitted (input : CompileInput) : Prop where
  app : ApplicationSpec.shape.Admits input.app
  settings : Settings.shape.Admits input.settings
  overrides : ∀ o ∈ input.overrides, ∀ p ∈ o.2, ExposedPort.shape.Admits p

/-! ## Values -/

/-- Variables tell a process its ports: all of them together, joined by commas, and a single one by
itself. -/
structure Advertised (process : String) (ports : List Int) (generated : List Binding) : Prop where
  names : ∀ b ∈ generated, b.name ∈ ["port", "PORT", "PORT_" ++ process]
  distinct : (generated.map (·.name)).Nodup
  joined : (∃ b ∈ generated, b.name = "PORT_" ++ process) ↔ ports ≠ []
  joined_value : ∀ b ∈ generated, b.name = "PORT_" ++ process →
    b.value.toList.splitOn ',' = ports.map fun port => (toString port).toList
  single : ∀ name ∈ ["port", "PORT"],
    (∃ b ∈ generated, b.name = name) ↔ ∃ port, ports = [port]
  single_value : ∀ b ∈ generated, b.name ∈ ["port", "PORT"] → ports.map toString = [b.value]

/-- The script that gets a URL until it has succeeded once. -/
def curlScript (method url : String) : String :=
  "if [ ! -f /tmp/onetimeprobesuccessful ]; then curl -ksSf -X" ++ method ++ " -o /dev/null " ++
    url ++ " && touch /tmp/onetimeprobesuccessful; fi"

/-- A probe of a health check asks a port for its path. -/
inductive Healthcheck.Reaches (h : Healthcheck) (port : Int) (probe : Document) : Prop where
  | http {request : Document} :
    probe.get? "httpGet" = some request →
    request.get? "port" = some (.int port) →
    Reaches h port probe
  | curl {path : String} :
    (probe.get? "exec").bind (·.get? "command") = some (.texts ["sh", "-c",
      curlScript h.effectiveMethod
        (h.effectiveScheme ++ "://localhost:" ++ toString port ++ "/" ++ path)]) →
    Reaches h port probe

/-- The values of a process agree on its ports, which are pairs of a service port and the container
port behind it. -/
structure ProcessPorts (settings : Settings) (d : DeploymentSpec) (spec : ProcessSpec)
    (values : Document) (ports : List (Int × Int)) : Prop where
  valid : ∀ p ∈ ports, IsPort p.1 ∧ IsPort p.2
  containerPorts : values.get? "containerPorts" =
    some (.list (ports.map fun p => containerPortDocument p.2))
  servicePorts : ∃ services, values.get? "servicePorts" = some (.list services) ∧
    List.Forall₂ (fun p service => service.get? "port" = some (.int p.1) ∧
      service.get? "targetPort" = some (.int p.2)) ports services
  publicPort : values.get? "publicServicePort" = ports.head?.map fun p => .int p.1
  env : ∃ generated, Advertised spec.name (ports.map (·.2)) generated ∧
    values.get? "env" = some (.list ((generated ++ spec.env).map (·.toDocument)))
  probes : ∀ h, d.manifest.bind (·.healthcheck) = some h → h.hasProbes = false →
    ∀ key ∈ probeKeys, ∀ probe, (values.get? "extra").bind (·.get? key) = some probe →
      h.Reaches ((ports.map (·.2)).head?.getD settings.defaultPort) probe
  checked : ∀ h, d.manifest.bind (·.healthcheck) = some h → h.hasProbes = false → h.path ≠ "" →
    ((values.get? "extra").bind (·.get? "readinessProbe")).isSome

/-- The values of a chart agree on the ports of all processes. -/
def PortsAgree (input : CompileInput) (values : Document) : Prop :=
  ∃ deployments, (values.get? "app").bind (·.get? "deployments") = some (.list deployments) ∧
    List.Forall₂ (fun d values =>
      ∃ processes, values.get? "processes" = some (.list processes) ∧
        List.Forall₂ (fun spec values => ∃ ports,
          ProcessPorts input.settings d spec values ports) d.processes processes)
      input.app.deployments deployments

/-! ## Numbers of ports -/

/-- What a positive number is looked for in has one that is a port, or the default is one. -/
lemma isPort_firstPositive? {candidates : List Int} {default : Int}
    (h : ∀ n ∈ candidates, n < 65536) (hd : IsPort default) :
    IsPort ((firstPositive? candidates).getD default) := by
  unfold firstPositive?
  cases hf : candidates.find? (0 < ·) with
  | none => exact hd
  | some n =>
    have hp := List.find?_some hf
    have hn := h n (List.mem_of_find?_eq_some hf)
    simp only [decide_eq_true_eq] at hp
    simp only [Option.getD_some, IsPort]
    omega

namespace PortConfig

variable {config : PortConfig} {default : Int}

/-- The container port of a configuration that passes. -/
lemma isPort_target (h : PortConfig.shape.Admits config) (hd : IsPort default) :
    IsPort (config.target default) := by
  obtain ⟨⟨-, hp⟩, -, ht⟩ := PortConfig.admits_iff.1 h
  apply isPort_firstPositive? _ hd
  simp only [targetChain, List.forall_mem_cons]
  exact ⟨ht, hp, by simp only [IsPort] at hd; omega, List.forall_mem_nil _⟩

/-- The service port of a configuration that passes. -/
lemma isPort_service (h : PortConfig.shape.Admits config) (hd : IsPort default) :
    IsPort (config.service default) := by
  obtain ⟨⟨-, hp⟩, -, ht⟩ := PortConfig.admits_iff.1 h
  apply isPort_firstPositive? _ hd
  simp only [serviceChain, List.forall_mem_cons]
  exact ⟨hp, ht, by simp only [IsPort] at hd; omega, List.forall_mem_nil _⟩

end PortConfig

namespace PortSource

/-- Ports come from specifications that pass. -/
structure Admitted (s : PortSource) : Prop where
  explicit : ∀ table ∈ s.explicit, PortConfig.tableShape.Admits table
  exposed : ∀ p ∈ s.exposed, ExposedPort.shape.Admits p
  default : IsPort s.settings.defaultPort

variable {s : PortSource}

/-- The port configurations of a process pass. -/
lemma Admitted.configs (h : s.Admitted) (process : String) :
    ∀ config ∈ s.configs process, PortConfig.shape.Admits config := by
  unfold PortSource.configs
  split
  next configs hc =>
    obtain ⟨table, ht, hc⟩ := Option.bind_eq_some_iff.1 hc
    have hl := PortConfig.admits_table_iff.1 (h.explicit table ht) _ (Dict.mem_of_get? hc)
    exact PortConfig.admits_list_iff.1 hl
  next =>
    have image : ∀ p ∈ s.imagePorts, 0 < p.port ∧ p.port < 65536 := by
      unfold imagePorts
      split
      case isTrue =>
        have hd := h.default
        simp only [List.mem_singleton, forall_eq]
        simp only [IsPort] at hd
        omega
      case isFalse => exact fun p hp => ExposedPort.admits_iff.1 (h.exposed p hp)
    intro config hc
    obtain ⟨i, hi, rfl⟩ := List.mem_mapIdx.1 hc
    have hp := image _ (List.getElem_mem hi)
    simp only [PortConfig.admits_iff, configOfExposed]
    omega

/-- The ports of a process: those of its service with the container ports behind them. -/
def ports (s : PortSource) (process : String) : List (Int × Int) :=
  (s.configs process).map fun config =>
    (config.service s.settings.defaultPort, config.target s.settings.defaultPort)

/-- The container ports of a process are those behind its service. -/
lemma ports_map_snd (process : String) : (s.ports process).map (·.2) = s.containerPorts process := by
  rw [ports, List.map_map]
  rfl

/-- The ports of a process are ports. -/
lemma Admitted.ports (h : s.Admitted) (process : String) :
    ∀ p ∈ s.ports process, IsPort p.1 ∧ IsPort p.2 := by
  unfold PortSource.ports
  rw [List.forall_mem_map]
  intro config hc
  have ha := h.configs process config hc
  exact ⟨PortConfig.isPort_service ha h.default, PortConfig.isPort_target ha h.default⟩

/-- The service ports of a process show its ports. -/
lemma forall₂_servicePorts (process : String) :
    List.Forall₂ (fun p service => (service : ServicePort).port = p.1 ∧ service.target = p.2)
      (s.ports process) (s.servicePorts process) := by
  rw [List.forall₂_iff_get]
  simp [ports, servicePorts, servicePort]

end PortSource

/-! ## Variables -/

/-- The decimal text of a number has no comma. -/
lemma comma_not_mem_toString (n : Int) : ',' ∉ (toString n).toList := by
  have digits (m : Nat) : ',' ∉ m.repr.toList := by
    rw [Nat.toList_repr]
    exact fun h => absurd (Text.isDigit_of_mem_toDigits h) (by decide)
  cases n with
  | ofNat m => exact digits m
  | negSucc m =>
    have e : (toString (Int.negSucc m)).toList = '-' :: (m + 1).repr.toList := by
      rw [show toString (Int.negSucc m) = "-" ++ (m + 1).repr from rfl, String.toList_append]
      rfl
    rw [e, List.mem_cons]
    exact not_or.2 ⟨by decide, digits (m + 1)⟩

/-- Numbers that are joined by commas come apart again. -/
lemma splitOn_joined {ports : List Int} (h : ports ≠ []) :
    (",".intercalate (ports.map toString)).toList.splitOn ',' =
      ports.map fun port => (toString port).toList := by
  rw [String.toList_intercalate, List.map_map]
  apply List.splitOn_intercalate ','
  · simp only [List.forall_mem_map, Function.comp_apply]
    exact fun port _ => comma_not_mem_toString port
  · simpa using h

/-- The name of the variable with all ports is no name of one with a single port. -/
lemma joinedName_ne (process : String) : "PORT_" ++ process ∉ ["port", "PORT"] := by
  intro h
  have h5 : 5 ≤ ("PORT_" ++ process).length := by
    rw [String.length_append]
    exact Nat.le_add_right _ _
  simp only [List.mem_cons, List.not_mem_nil, or_false] at h
  rcases h with h | h <;> · rw [h] at h5; exact absurd h5 (by decide)

/-- The variables of a process tell its ports. -/
lemma portVariables_advertised (process : String) (ports : List Int) :
    Advertised process ports (portVariables process ports) := by
  obtain ⟨hp, hP⟩ : "PORT_" ++ process ≠ "port" ∧ "PORT_" ++ process ≠ "PORT" := by
    simpa using joinedName_ne process
  match ports with
  | [] =>
    rw [show portVariables process [] = [] from rfl]
    constructor <;> simp
  | [p] =>
    have joined := splitOn_joined (List.cons_ne_nil p [])
    rw [show portVariables process [p] = [⟨"port", toString p⟩, ⟨"PORT", toString p⟩,
      ⟨"PORT_" ++ process, ",".intercalate ([p].map toString)⟩] from rfl]
    generalize ",".intercalate ([p].map toString) = value at joined ⊢
    constructor <;> simp [hp, hP, hp.symm, hP.symm, joined]
  | p :: q :: ports =>
    have joined := splitOn_joined (List.cons_ne_nil p (q :: ports))
    rw [show portVariables process (p :: q :: ports) =
      [⟨"PORT_" ++ process, ",".intercalate ((p :: q :: ports).map toString)⟩] from rfl]
    generalize ",".intercalate ((p :: q :: ports).map toString) = value at joined ⊢
    constructor <;> simp [hp, hP, joined]

/-! ## Probes -/

/-- A probe that succeeds once asks its port. -/
lemma Healthcheck.reaches_oneShotProbe (h : Healthcheck) (port : Int) :
    h.Reaches port (.object (h.oneShotProbe port)) := by
  have script : h.oneShotScript port = curlScript h.effectiveMethod
      (h.effectiveScheme ++ "://localhost:" ++ toString port ++ "/" ++
        String.ofList (h.path.toList.dropWhile (· = '/'))) := by
    unfold oneShotScript curlScript
    rfl
  apply Reaches.curl
  rw [← script]
  simp [oneShotProbe, timing, Document.get?_object, Dict.get?]

/-- A probe of the router asks its port. -/
lemma Healthcheck.reaches_routerProbe (h : Healthcheck) (port : Int) :
    h.Reaches port (.object (h.routerProbe port)) := by
  have request : (Document.object (h.routerProbe port)).get? "httpGet" =
      some (.object [("path", .text h.path), ("port", .int port),
        ("scheme", .text (Text.upper h.effectiveScheme))]) := by
    simp [routerProbe, timing, Document.get?_object, Dict.get?]
  exact .http request (by simp [Document.get?_object, Dict.get?])

/-- The probes that are made for a port ask it. -/
lemma Healthcheck.reaches_of_probes {h : Healthcheck} {port : Int} {p : Probes}
    (made : h.hasProbes = false) (hp : h.probes port = .ok p) :
    ∀ probe ∈ [p.readiness, p.liveness, p.startup], ∀ fields ∈ probe,
      h.Reaches port (.object fields) := by
  cases Healthcheck.probes_inv hp with
  | copied given => simp [given] at made
  | nothing => simp [Probes.none]
  | oneShot => simp [h.reaches_oneShotProbe port]
  | router | restarting => simp [h.reaches_routerProbe port]

/-- For a path there is a made probe that is not empty. -/
lemma Healthcheck.exists_readiness {h : Healthcheck} {port : Int} {p : Probes}
    (made : h.hasProbes = false) (path : h.path ≠ "") (hp : h.probes port = .ok p) :
    ∃ fields, p.readiness = some fields ∧ fields ≠ [] := by
  cases Healthcheck.probes_inv hp with
  | copied given => simp [given] at made
  | nothing _ no => exact absurd no path
  | oneShot => exact ⟨_, rfl, by simp [oneShotProbe, timing]⟩
  | router | restarting => exact ⟨_, rfl, by simp [routerProbe, timing]⟩

/-- Under the key of a probe there is one of the probes. -/
lemma PodExtra.mem_of_get?_probe {x : PodExtra} {key : String} (hk : key ∈ probeKeys)
    {probe : Document} (h : x.toDocument.get? key = some probe) :
    ∃ p ∈ [x.readiness, x.liveness, x.startup], ∃ fields ∈ p, probe = .object fields := by
  have found {p : Option Extension} (h : (p.filter (· ≠ [])).map Document.object = some probe) :
      ∃ fields ∈ p, probe = .object fields := by
    obtain ⟨fields, hf, rfl⟩ := Option.map_eq_some_iff.1 h
    exact ⟨fields, (Option.filter_eq_some_iff.1 hf).1, rfl⟩
  obtain ⟨-, -, -, readiness, liveness, startup⟩ := x.get?_toDocument
  simp only [probeKeys, List.mem_cons, List.not_mem_nil, or_false] at hk
  rcases hk with rfl | rfl | rfl
  · exact ⟨x.readiness, by simp, found (readiness ▸ h)⟩
  · exact ⟨x.liveness, by simp, found (liveness ▸ h)⟩
  · exact ⟨x.startup, by simp, found (startup ▸ h)⟩

/-! ## Processes -/

/-- The values of a process that compiles agree on its ports. -/
lemma ProcessSpec.processPorts {app d routable} {s : PortSource} {spec : ProcessSpec} {q}
    (ha : s.Admitted) (h : spec.resolve app d s routable = .ok q) :
    ProcessPorts s.settings d spec q.toDocument (s.ports spec.name) := by
  obtain ⟨probes, hp, -, rfl⟩ := ProcessSpec.resolve_inv h
  have e := s.ports_map_snd spec.name
  obtain ⟨containers, services, first, env, extra⟩ :=
    ProcessDefinition.get?_toDocument (spec.definition app d s routable probes)
  constructor
  case valid => exact ha.ports spec.name
  case containerPorts =>
    rw [containers, definition, ← e, List.map_map]
    rfl
  case servicePorts =>
    refine ⟨_, services, List.forall₂_map_right_iff.2 ?_⟩
    refine (s.forall₂_servicePorts spec.name).imp fun p service hs => ?_
    simp [ServicePort.toDocument, Document.get?_object, Dict.get?, hs.1, hs.2]
  case publicPort =>
    have hs := s.forall₂_servicePorts spec.name
    rw [first, definition, Chartwright.publicPort]
    generalize s.ports spec.name = ports at hs ⊢
    generalize s.servicePorts spec.name = services at hs ⊢
    cases hs with
    | nil => simp
    | cons hp _ => simp [hp.1]
  case env =>
    refine ⟨_, ?_, env⟩
    rw [e]
    exact portVariables_advertised spec.name _
  case probes =>
    intro check hm made key hk probe hf
    rw [extra, Option.bind_some] at hf
    obtain ⟨p, hm', fields, hf', rfl⟩ := PodExtra.mem_of_get?_probe hk hf
    rw [hm] at hp
    rw [e]
    exact Healthcheck.reaches_of_probes made hp p hm' fields hf'
  case checked =>
    intro check hm made path
    rw [hm] at hp
    obtain ⟨fields, hr, hf⟩ := Healthcheck.exists_readiness made path hp
    obtain ⟨-, -, -, readiness, -⟩ :=
      PodExtra.get?_toDocument (spec.definition app d s routable probes).extra
    rw [extra, Option.bind_some, readiness, definition, hr]
    simp [Option.filter, hf]

/-! ## Applications -/

/-- The ports of a deployment that passes come from specifications that pass. -/
lemma DeploymentSpec.portSource_admitted {d : DeploymentSpec} {settings : Settings}
    {overrides : PortOverrides} (hd : d.Admitted) (hs : settings.Admitted)
    (ho : ∀ o ∈ overrides, ∀ p ∈ o.2, ExposedPort.shape.Admits p) :
    (d.portSource settings overrides).Admitted where
  explicit := by
    intro table ht
    obtain ⟨m, hm, ht⟩ := Option.bind_eq_some_iff.1 ht
    exact (Manifest.admits_iff.1 (hd.manifest m hm)).2.2 table ht
  exposed := by
    simp only [portSource, effectivePorts]
    cases ho' : Dict.get? overrides d.version with
    | none => exact hd.exposedPorts
    | some ports => exact ho _ (Dict.mem_of_get? ho')
  default := by
    have hp := hs.defaultPort
    simp only [portSource, IsPort]
    omega

/-- The values of a deployment that compiles agree on the ports of its processes. -/
lemma DeploymentSpec.processPorts {app settings overrides} {d : DeploymentSpec} {c}
    (ha : (d.portSource settings overrides).Admitted)
    (h : d.compile app settings overrides = .ok c) :
    ∃ processes, c.toDocument.get? "processes" = some (.list processes) ∧
      List.Forall₂ (fun spec values => ∃ ports, ProcessPorts settings d spec values ports)
        d.processes processes := by
  obtain ⟨procfile, processes, -, hr, rfl⟩ := DeploymentSpec.compile_inv h
  refine ⟨processes.map (·.toDocument), ?_, List.forall₂_map_right_iff.2 ?_⟩
  · exact (CompiledDeployment.get?_toDocument _).1
  · exact hr.imp fun spec q hq => ⟨_, ProcessSpec.processPorts ha hq⟩

/-- In the values of a chart, every process of every deployment has ports that all places agree
on. -/
theorem compiled_ports {input : CompileInput} {context : LogContext} {chart : Chart}
    (admitted : input.Admitted) (compiled : (compileLogged input context).1 = .ok chart) :
    PortsAgree input chart.values := by
  rw [compileLogged_value] at compiled
  obtain ⟨ingress, deployments, -, hd, rfl⟩ := compile_inv compiled
  have app := ApplicationSpec.admits_iff.1 admitted.app
  have settings := Settings.admits_iff.1 admitted.settings
  refine ⟨deployments.map (·.toDocument), ?_, List.forall₂_map_right_iff.2 ?_⟩
  · simp [Chart.values, Document.get?_object, Dict.get?]
  · refine ((List.forall₂_and_left _ _).2 ⟨app.deployments, hd⟩).imp fun d c h => ?_
    have ports := DeploymentSpec.portSource_admitted (DeploymentSpec.admits_iff.1 h.1) settings
      admitted.overrides
    exact DeploymentSpec.processPorts ports h.2

/-- A shop as a document: its first process has ports of its own, the second one that of the image,
and the router checks a path of both. -/
def shopDocument : Document :=
  .object [("name", .text "shop"), ("deployments", .list [.object [
    ("image", .text "shop:v1"),
    ("version", .int 1),
    ("processes", .list [.object [("name", .text "web")], .object [("name", .text "worker")]]),
    ("exposedPorts", .list [.object [("port", .int 9000)]]),
    ("manifest", .object [
      ("healthcheck", .object [("path", .text "/health"), ("use_in_router", .bool true)]),
      ("kubernetes", .object [("processes", .object [("web", .object [("ports", .list [
        .object [("target_port", .int 8080)],
        .object [("port", .int 443)]])])])])])]])]

/-- What the shop is compiled with, where nothing replaces the port of its image. -/
def shopInput (app : ApplicationSpec) : CompileInput :=
  ⟨app, ⟨"shops", "", ⟨"", "", .nginx, ""⟩, none⟩, [], [], .default⟩

/-- The ports of the shop. -/
theorem shop_ports : ∃ app chart, ApplicationSpec.shape.decode shopDocument = .ok app ∧
    (compileLogged (shopInput app) []).1 = .ok chart ∧ PortsAgree (shopInput app) chart.values := by
  obtain ⟨chart, h⟩ := Outcome.exists_ok_of_toBool (show
    (do
      let app ← (ApplicationSpec.shape.decode shopDocument).mapError fun _ => ()
      (compileLogged (shopInput app) []).1.mapError fun _ => ()).toBool = true by decide +kernel)
  obtain ⟨app, read, compiled⟩ := Outcome.bind_ok_iff.1 h
  rw [Outcome.mapError_ok_iff] at read compiled
  have admitted : (shopInput app).Admitted :=
    { app := ⟨_, read⟩
      settings := ⟨.mapping [], rfl⟩
      overrides := List.forall_mem_nil _ }
  exact ⟨app, chart, read, compiled, compiled_ports admitted compiled⟩

end Chartwright
