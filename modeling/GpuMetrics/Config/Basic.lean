import GpuMetrics.Text.Wording

/-!
# Settings

The settings of the exporter and their defaults.
-/

namespace GpuMetrics

/-- The settings of the collector. -/
structure CollectorSettings where
  /-- What every metric name begins with. -/
  stem : String := "nvidia_smi"
  /-- The command line of the tool. -/
  command : Text.Wording := "nvidia-smi"
  /-- The fields to ask for, or the word that leaves the choice to the tool. -/
  queryFieldNames : Text.Wording := "AUTO"
  /-- Whether the exporter shuts down when the tool exits with an error. -/
  shutdownOnError : Bool := false
  /-- The seconds that a run of the tool may take. -/
  commandTimeout : Float := 10

/-- The settings of the web server. -/
structure WebSettings where
  /-- The host, which may be empty, and the port to listen on. -/
  listenAddress : Text.Wording := ":9835"
  /-- The path of the metrics. -/
  telemetryPath : Text.Wording := "/metrics"
  deriving DecidableEq, Repr

/-- The settings of the exporter. -/
structure Settings where
  collector : CollectorSettings := {}
  web : WebSettings := {}
  /-- The level of the log. -/
  logLevel : String := "INFO"

end GpuMetrics
