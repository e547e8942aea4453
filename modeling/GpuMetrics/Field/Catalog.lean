import GpuMetrics.Keyed
import GpuMetrics.Text.Quoted

/-!
# The built-in catalog

The headers that the tool prints for the query fields it is known to support, for when they cannot
be learned from the tool itself. The header of a field is its name, with the unit in brackets behind
it if it has one.
-/

namespace GpuMetrics.Field

/-- A field whose header is its name. -/
def same (field : String) : String × String := (field, field)

/-- The known query fields and their headers. -/
def catalog : Keyed String String := [
  same "timestamp",
  same "driver_version",
  same "count",
  same "name",
  same "serial",
  same "uuid",
  same "pci.bus_id",
  same "pci.domain",
  same "pci.bus",
  same "pci.device",
  same "pci.device_id",
  same "pci.sub_device_id",
  same "pcie.link.gen.current",
  same "pcie.link.gen.max",
  same "pcie.link.width.current",
  same "pcie.link.width.max",
  same "index",
  same "display_mode",
  same "display_active",
  same "persistence_mode",
  same "accounting.mode",
  same "accounting.buffer_size",
  same "driver_model.current",
  same "driver_model.pending",
  same "vbios_version",
  same "inforom.img",
  same "inforom.oem",
  same "inforom.ecc",
  same "inforom.pwr",
  same "gom.current",
  same "gom.pending",
  ("fan.speed", "fan.speed [%]"),
  same "pstate",
  same "clocks_throttle_reasons.supported",
  same "clocks_throttle_reasons.active",
  same "clocks_throttle_reasons.gpu_idle",
  same "clocks_throttle_reasons.applications_clocks_setting",
  same "clocks_throttle_reasons.sw_power_cap",
  same "clocks_throttle_reasons.hw_slowdown",
  same "clocks_throttle_reasons.hw_thermal_slowdown",
  same "clocks_throttle_reasons.hw_power_brake_slowdown",
  same "clocks_throttle_reasons.sw_thermal_slowdown",
  same "clocks_throttle_reasons.sync_boost",
  ("memory.total", "memory.total [MiB]"),
  ("memory.used", "memory.used [MiB]"),
  ("memory.free", "memory.free [MiB]"),
  same "compute_mode",
  ("utilization.gpu", "utilization.gpu [%]"),
  ("utilization.memory", "utilization.memory [%]"),
  same "encoder.stats.sessionCount",
  same "encoder.stats.averageFps",
  same "encoder.stats.averageLatency",
  same "ecc.mode.current",
  same "ecc.mode.pending",
  same "ecc.errors.corrected.volatile.device_memory",
  same "ecc.errors.corrected.volatile.dram",
  same "ecc.errors.corrected.volatile.register_file",
  same "ecc.errors.corrected.volatile.l1_cache",
  same "ecc.errors.corrected.volatile.l2_cache",
  same "ecc.errors.corrected.volatile.texture_memory",
  same "ecc.errors.corrected.volatile.cbu",
  same "ecc.errors.corrected.volatile.sram",
  same "ecc.errors.corrected.volatile.total",
  same "ecc.errors.corrected.aggregate.device_memory",
  same "ecc.errors.corrected.aggregate.dram",
  same "ecc.errors.corrected.aggregate.register_file",
  same "ecc.errors.corrected.aggregate.l1_cache",
  same "ecc.errors.corrected.aggregate.l2_cache",
  same "ecc.errors.corrected.aggregate.texture_memory",
  same "ecc.errors.corrected.aggregate.cbu",
  same "ecc.errors.corrected.aggregate.sram",
  same "ecc.errors.corrected.aggregate.total",
  same "ecc.errors.uncorrected.volatile.device_memory",
  same "ecc.errors.uncorrected.volatile.dram",
  same "ecc.errors.uncorrected.volatile.register_file",
  same "ecc.errors.uncorrected.volatile.l1_cache",
  same "ecc.errors.uncorrected.volatile.l2_cache",
  same "ecc.errors.uncorrected.volatile.texture_memory",
  same "ecc.errors.uncorrected.volatile.cbu",
  same "ecc.errors.uncorrected.volatile.sram",
  same "ecc.errors.uncorrected.volatile.total",
  same "ecc.errors.uncorrected.aggregate.device_memory",
  same "ecc.errors.uncorrected.aggregate.dram",
  same "ecc.errors.uncorrected.aggregate.register_file",
  same "ecc.errors.uncorrected.aggregate.l1_cache",
  same "ecc.errors.uncorrected.aggregate.l2_cache",
  same "ecc.errors.uncorrected.aggregate.texture_memory",
  same "ecc.errors.uncorrected.aggregate.cbu",
  same "ecc.errors.uncorrected.aggregate.sram",
  same "ecc.errors.uncorrected.aggregate.total",
  same "retired_pages.single_bit_ecc.count",
  same "retired_pages.double_bit.count",
  same "retired_pages.pending",
  same "temperature.gpu",
  same "temperature.memory",
  same "power.management",
  ("power.draw", "power.draw [W]"),
  ("power.limit", "power.limit [W]"),
  ("enforced.power.limit", "enforced.power.limit [W]"),
  ("power.default_limit", "power.default_limit [W]"),
  ("power.min_limit", "power.min_limit [W]"),
  ("power.max_limit", "power.max_limit [W]"),
  ("clocks.current.graphics", "clocks.current.graphics [MHz]"),
  ("clocks.current.sm", "clocks.current.sm [MHz]"),
  ("clocks.current.memory", "clocks.current.memory [MHz]"),
  ("clocks.current.video", "clocks.current.video [MHz]"),
  ("clocks.applications.graphics", "clocks.applications.graphics [MHz]"),
  ("clocks.applications.memory", "clocks.applications.memory [MHz]"),
  ("clocks.default_applications.graphics", "clocks.default_applications.graphics [MHz]"),
  ("clocks.default_applications.memory", "clocks.default_applications.memory [MHz]"),
  ("clocks.max.graphics", "clocks.max.graphics [MHz]"),
  ("clocks.max.sm", "clocks.max.sm [MHz]"),
  ("clocks.max.memory", "clocks.max.memory [MHz]"),
  same "mig.mode.current",
  same "mig.mode.pending"]

/-- A query field that the catalog does not have: an `UnexpectedQueryFieldError`. -/
structure Unexpected where
  queryField : String
  deriving DecidableEq, Repr

/-- How a message names the fault. -/
def Unexpected.message (e : Unexpected) : String :=
  "unexpected query field: " ++ Text.quoted e.queryField

/-- The headers of some query fields, as `fallback_returned_fields` looks them up. The first field
that the catalog does not have is a fault. -/
def catalogHeaders : List String → Except Unexpected (List String)
  | [] => .ok []
  | q :: rest =>
    match Keyed.get? catalog q with
    | some header => (catalogHeaders rest).map (header :: ·)
    | none => .error ⟨q⟩

end GpuMetrics.Field
