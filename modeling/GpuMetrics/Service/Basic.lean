import GpuMetrics.Collector.Emission
import GpuMetrics.Config.Check
import GpuMetrics.Metric.Exposition
import GpuMetrics.Metric.Registry
import GpuMetrics.Web.Server

/-!
# The service

A service has settings, a collector whose names it has claimed, and a server that shows what the
collector gives. It is told of runs that ended with an error if its settings say so, and then
requests its own stop.
-/

namespace GpuMetrics

/-- A service that is ready to be run: an `ExporterApp`. -/
structure Service where
  settings : Settings
  collector : Collector
  /-- The names that the collector has claimed. -/
  registry : Metric.Registry

namespace Service

/-- The channel that a service logs on. -/
def channel : String := "nvidia_gpu_exporter"

/-- Logs the failed run and requests a stop: `_on_scrape_error`. -/
def listener : Listener := fun failure =>
  { records := [.plain channel .error ("Shutting down on scrape error: " ++ failure.message)]
    requestsStop := true
    fault := none }

variable {σ : Type}

/-- The registry after the collector has claimed its names. -/
def claim (c : Collector) (registry : Metric.Registry) : Session σ Metric.Registry := do
  match registry.register (← c.describe) with
  | .ok r => return r
  | .error names => throw (.taken names)

/-- The service that the settings lead to, as the constructor of `ExporterApp` makes it. -/
def build (settings : Settings) (rule : Metric.NameRule) (runner : Runner σ) :
    Session σ Service := do
  Session.note channel .info "Initializing GPU collector..."
  let collector ← Collector.build settings.collector rule (some listener) channel none runner
  return ⟨settings, collector, ← claim collector .empty⟩

/-- All families of a scrape. -/
def pull (s : Service) (runner : Runner σ) : Session σ (List Metric.Family) :=
  s.collector.collect runner

/-- The server that shows the families of a scrape. -/
def server (s : Service) (runner : Runner σ) : Web.Server σ where
  channel := channel
  telemetryPath := s.settings.web.telemetryPath
  metrics := return Metric.exposition (← s.pull runner)

end Service

end GpuMetrics
