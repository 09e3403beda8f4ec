import Chartwright.Settings
import Chartwright.Spec.Deployment
import Chartwright.Text.Upper

/-!
# Ports

The ports of a process: those that the manifest gives it, else those that the image declares. A
port that is left out falls back to its counterpart and then to the default port.
-/

namespace Chartwright

/-- A port of a service and the container port behind it. -/
structure ServicePort where
  name : String
  port : Int
  protocol : String
  target : Int
deriving DecidableEq, Repr

/-- The document of a service port. -/
def ServicePort.toDocument (p : ServicePort) : Document :=
  .object [("name", .text p.name), ("port", .int p.port), ("protocol", .text p.protocol),
    ("targetPort", .int p.target)]

/-- The document of a container port. -/
def containerPortDocument (port : Int) : Document := .object [("containerPort", .int port)]

/-- The first positive number of a list. -/
def firstPositive? (candidates : List Int) : Option Int := candidates.find? (0 < ·)

namespace PortConfig

/-- Where the container port is looked for. -/
def targetChain (config : PortConfig) (default : Int) : List Int :=
  [config.targetPort, config.port, default]

/-- Where the service port is looked for. -/
def serviceChain (config : PortConfig) (default : Int) : List Int :=
  [config.port, config.targetPort, default]

/-- The container port; the default is the last resort. -/
def target (config : PortConfig) (default : Int) : Int :=
  (firstPositive? (config.targetChain default)).getD default

/-- The service port; the default is the last resort. -/
def service (config : PortConfig) (default : Int) : Int :=
  (firstPositive? (config.serviceChain default)).getD default

end PortConfig

/-- The name of a port without a name of its own, by its position from zero. -/
def generatedPortName (base : String) (index : Nat) : String :=
  base ++ "-" ++ toString (index + 1)

/-- What the ports of the processes of a deployment follow from. -/
structure PortSource where
  explicit : Option (Dict String (List PortConfig))
  exposed : List ExposedPort
  settings : Settings
deriving DecidableEq, Repr

namespace PortSource

/-- The ports of the image; one that declares none has the default port. -/
def imagePorts (s : PortSource) : List ExposedPort :=
  if s.exposed = [] then [⟨s.settings.defaultPort, "TCP"⟩] else s.exposed

/-- The configuration that stands for a port of the image. -/
def configOfExposed (s : PortSource) (index : Nat) (e : ExposedPort) : PortConfig :=
  ⟨generatedPortName s.settings.defaultPortName index, Text.upper e.protocol, e.port, e.port⟩

/-- The port configurations of a process. -/
def configs (s : PortSource) (process : String) : List PortConfig :=
  match s.explicit.bind (Dict.get? · process) with
  | some configs => configs
  | none => s.imagePorts.mapIdx s.configOfExposed

/-- The container ports of a process. -/
def containerPorts (s : PortSource) (process : String) : List Int :=
  (s.configs process).map (·.target s.settings.defaultPort)

/-- The service port of a configuration at a position. -/
def servicePort (s : PortSource) (index : Nat) (config : PortConfig) : ServicePort where
  name :=
    if config.name = "" then generatedPortName s.settings.defaultPortName index else config.name
  port := config.service s.settings.defaultPort
  protocol := config.protocol
  target := config.target s.settings.defaultPort

/-- The service ports of a process. -/
def servicePorts (s : PortSource) (process : String) : List ServicePort :=
  (s.configs process).mapIdx s.servicePort

end PortSource

/-- The port that traffic from outside goes to: the first one. -/
def publicPort (ports : List ServicePort) : Option Int := ports.head?.map (·.port)

/-- The variables that tell a process its ports: a single port twice, and all of them joined. -/
def portVariables (process : String) (ports : List Int) : List Binding :=
  let single := match ports with
    | [port] => [⟨"port", toString port⟩, ⟨"PORT", toString port⟩]
    | _ => []
  if ports = [] then []
  else single ++ [⟨"PORT_" ++ process, ",".intercalate (ports.map toString)⟩]

end Chartwright
