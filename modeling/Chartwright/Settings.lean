import Chartwright.Schema.Shape

/-!
# Settings

The choices of the operator: default ports, the base domain, what a chart says about itself, and
logging.
-/

namespace Chartwright

open Schema

/-- The settings that all parts share. -/
structure Settings where
  defaultPort : Int
  defaultPortName : String
  baseDomain : String
  chartVersion : String
  chartDescription : String
  logLevel : String
  logFormat : String
deriving DecidableEq, Repr

namespace Settings

/-- The settings where nothing is chosen. -/
def default : Settings :=
  ⟨8888, "http-default", "shipa.cloud", "0.0.1", "application chart", "INFO", "console"⟩

/-- The words for the log levels, in any case. -/
def logLevelPattern : Pattern where
  source := "(?i)^(debug|info|warning|error|critical)$"
  accepts cs := String.ofList (cs.map Char.toLower) ∈ ["debug", "info", "warning", "error", "critical"]

/-- The words for the log formats. -/
def logFormatPattern : Pattern where
  source := "^(json|console)$"
  accepts cs := String.ofList cs ∈ ["json", "console"]

/-- The shape of the settings; other keys are ignored. -/
def shape : Shape Settings :=
  .record "AppChartSettings" false
    (.withDefault "default_port" (.integer [.above 0, .below 65536]) default.defaultPort <|
      .withDefault "default_port_name" (.text .nonEmpty) default.defaultPortName <|
      .withDefault "base_domain" (.text .any) default.baseDomain <|
      .withDefault "chart_version" (.text .any) default.chartVersion <|
      .withDefault "chart_description" (.text .any) default.chartDescription <|
      .withDefault "log_level" (.text ⟨0, none, some logLevelPattern⟩) default.logLevel <|
      .withDefault "log_format" (.text ⟨0, none, some logFormatPattern⟩) default.logFormat .done)
    (fun (port, portName, domain, version, description, level, format, ()) =>
      .ok ⟨port, portName, domain, version, description, level, format⟩)
    (fun s => (s.defaultPort, s.defaultPortName, s.baseDomain, s.chartVersion,
      s.chartDescription, s.logLevel, s.logFormat, ()))

/-- The names of the settings. -/
def names : List String := [
  "default_port", "default_port_name", "base_domain", "chart_version", "chart_description",
  "log_level", "log_format"]

end Settings

end Chartwright
