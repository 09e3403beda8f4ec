import Chartwright.Chart.Problem
import Chartwright.Settings
import Chartwright.Spec.Application
import Chartwright.Spec.Environment
import Chartwright.Text.Blank
import Chartwright.Text.CaseFold

/-!
# Ingress

Where an application is reached from outside: plain hosts, endpoints with a certificate, and a
domain that is made for it.
-/

namespace Chartwright

/-- Who looks after a certificate. -/
inductive CertificateOwner where
  | authority | user
deriving DecidableEq, Repr

/-- The word for an owner. -/
def CertificateOwner.name : CertificateOwner → String
  | .authority => "cert-manager"
  | .user => "user"

/-- An endpoint with a certificate. -/
structure SecureEndpoint where
  uniqueName : String
  host : String
  secretName : String
  managedBy : CertificateOwner
deriving DecidableEq, Repr

/-- The document of an endpoint. -/
def SecureEndpoint.toDocument (e : SecureEndpoint) : Document :=
  .object [("uniqueName", .text e.uniqueName), ("cname", .text e.host),
    ("secretName", .text e.secretName), ("managedBy", .text e.managedBy.name)]

/-- The entry points of an application. -/
structure Ingress where
  http : List String
  https : List SecureEndpoint
deriving DecidableEq, Repr

/-- The document of the entry points. -/
def Ingress.toDocument (i : Ingress) : Document :=
  .object [("http", .texts i.http), ("https", .list (i.https.map (·.toDocument)))]

/-- The characters that a label keeps. -/
def isLabelChar (c : Char) : Bool := isLower c || Text.isDigit c

/-- Replaces each run of other characters by one dash. -/
def dashRuns : List Char → List Char
  | [] => []
  | c :: rest =>
    if isLabelChar c then c :: dashRuns rest
    else match dashRuns rest with
      | '-' :: dashed => '-' :: dashed
      | dashed => '-' :: dashed

/-- A domain name as a label: its groups of letters and digits, without case, joined by dashes. -/
def domainLabel (name : String) : String :=
  String.ofList (Text.trimWhile (· = '-') (dashRuns (Text.caseFold name).toList))

/-- The endpoint of a secure domain. -/
def Domain.endpoint (app : String) (d : Domain) : SecureEndpoint :=
  let label := domainLabel d.name
  { uniqueName := app ++ "-https-" ++ label
    host := d.name
    secretName := if d.secretName = "" then app ++ "-cname-" ++ label else d.secretName
    managedBy := if d.secretName = "" then .authority else .user }

/-- The URL of a domain. -/
def Domain.url (d : Domain) : String :=
  (if d.secure then "https" else "http") ++ "://" ++ d.name

namespace ApplicationSpec

/-- The domain that is made for an application, if it asks for one and the environment has an
endpoint. -/
def defaultDomain? (app : ApplicationSpec) (environment : EnvironmentSpec) (settings : Settings) :
    Option String :=
  let endpoint := environment.controller.serviceEndpoint
  if app.ingress.generateDefaultDomain ∧ endpoint ≠ "" then
    some (app.name ++ "." ++ endpoint ++ "." ++ settings.baseDomain)
  else none

/-- The entry points of an application; secure domains need an issuer of certificates. -/
def resolveIngress (app : ApplicationSpec) (environment : EnvironmentSpec) (settings : Settings) :
    Except CompileProblem Ingress :=
  let domains := app.ingress.domains
  let secure := domains.filter (·.secure)
  match environment.controller.clusterIssuer, secure with
  | "", first :: _ => .error (.missingIssuer app.name first.name)
  | _, _ => .ok {
      http := (domains.filter (!·.secure)).map (·.name) ++
        (app.defaultDomain? environment settings).toList
      https := secure.map (·.endpoint app.name) }

/-- The URLs of an application, that of the made domain first; without an environment there is no
made domain. -/
def urls (app : ApplicationSpec) (environment : Option EnvironmentSpec) (settings : Settings) :
    List String :=
  ((environment.bind (app.defaultDomain? · settings)).map ("http://" ++ ·)).toList ++
    app.ingress.domains.map (·.url)

end ApplicationSpec

end Chartwright
