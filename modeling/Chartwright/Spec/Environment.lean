import Chartwright.Schema.Shape

/-!
# Environments

Where applications are compiled for: the ingress controller and its issuer of certificates.
-/

namespace Chartwright

open Schema

/-- The known ingress controllers. -/
inductive ControllerType where
  | traefik | istio | nginx
deriving DecidableEq, Repr

/-- The word for an ingress controller. -/
def ControllerType.name : ControllerType → String
  | .traefik => "traefik"
  | .istio => "istio"
  | .nginx => "nginx"

/-- The ingress controllers by their words. -/
def ControllerType.options : List (String × ControllerType) :=
  [ControllerType.traefik, .istio, .nginx].map fun t => (t.name, t)

/-- The ingress controller of an environment. -/
structure IngressController where
  className : String
  serviceEndpoint : String
  type : ControllerType
  clusterIssuer : String
deriving DecidableEq, Repr

/-- The shape of an ingress controller. -/
def IngressController.shape : Shape IngressController :=
  .record "IngressControllerSpec" true
    (.aliased "class_name" "className" (.text .any) "" <|
      .aliased "service_endpoint" "serviceEndpoint" (.text .any) "" <|
      .withDefault "type" (.choice ControllerType.options ControllerType.name) .traefik <|
      .aliased "cluster_issuer" "clusterIssuer" (.text .any) "" .done)
    (fun (className, endpoint, type, issuer, ()) => .ok ⟨className, endpoint, type, issuer⟩)
    (fun c => (c.className, c.serviceEndpoint, c.type, c.clusterIssuer, ()))

/-- An environment. -/
structure EnvironmentSpec where
  name : String
  nameSpace : String
  controller : IngressController
  quotaLimit : Option Int
deriving DecidableEq, Repr

/-- The shape of an environment. -/
def EnvironmentSpec.shape : Shape EnvironmentSpec :=
  .record "EnvironmentSpec" true
    (.required "name" (.text .nonEmpty) <|
      .withDefault "namespace" (.text .any) "" <|
      .aliased "ingress_controller" "ingressController" IngressController.shape
        ⟨"", "", .traefik, ""⟩ <|
      .aliased "app_quota_limit" "appQuotaLimit" (.optional (.integer [])) none .done)
    (fun (name, ns, controller, quota, ()) => .ok ⟨name, ns, controller, quota⟩)
    (fun e => (e.name, e.nameSpace, e.controller, e.quotaLimit, ()))

end Chartwright
