import GpuMetrics.Command.Smi
import GpuMetrics.Field.Help

/-!
# Learning fields and headers

If the choice of fields is left to the tool, its help text tells them; without a help text the whole
catalog is taken. For the fields that are asked for, a trial query tells the headers; if it fails
the catalog does.
-/

namespace GpuMetrics.Field

/-- The fields that are asked for, and the header of each: a `FieldMapping`. -/
structure Mapping where
  queryFields : List String
  returnedFields : Keyed String String
  deriving DecidableEq, Repr

/-- The mapping of fields to the headers at the same places, as `FieldMapping.from_lists` pairs
them. A field without a header has none, and one that stands twice has its last. -/
def Mapping.ofLists (queryFields returnedFields : List String) : Mapping :=
  ⟨queryFields, Keyed.ofList (queryFields.zip returnedFields)⟩

/-- The mapping of the whole catalog: `fallback_mapping`. -/
def catalogMapping : Mapping := .ofLists (catalog.map (·.1)) (catalog.map (·.2))

variable {σ : Type}

/-- The fields that the tool says it supports, as `parse_auto_query_fields` asks for them. -/
def detect (smi : Smi) (runner : Runner σ) : Session σ (List String) := do
  let result ← smi.help runner
  let fields := listedFields result.stdout
  if fields.isEmpty then
    throw (.noFields ⟨result.command, result.stdout, result.stderr⟩)
  return fields

/-- Whether a fault in the detection of fields is made up for by the catalog. -/
def isDetectionFault : Fault → Bool
  | .run _ => true
  | .noFields _ => true
  | _ => false

/-- Whether a fault in the trial query is made up for by the catalog. -/
def isTrialFault : Fault → Bool
  | .run _ => true
  | e => e.isValueFault

/-- The headers that a query for some fields prints. -/
def trialHeaders (smi : Smi) (runner : Runner σ) (fields : List String) :
    Session σ (List String) := do
  let result ← smi.query runner fields
  match Table.parse result.stdout fields with
  | .ok t => return t.returnedFields
  | .error m => throw (.mismatch m)

/-- The headers of some fields, by a trial query or else by the catalog. Only the faults that
`resolve_fields` catches are made up for. -/
def headersOf (smi : Smi) (runner : Runner σ) (fields : List String) :
    Session σ (List String) := do
  match ← Session.attempt (trialHeaders smi runner fields) with
  | .ok headers => return headers
  | .error e =>
    if isTrialFault e then
      Session.note smi.channel .warning
        ("Failed to run the initial scrape, using the built-in list for field mapping: "
          ++ e.message)
      match catalogHeaders fields with
      | .ok headers => return headers
      | .error u => throw (.unexpected u)
    else throw e

/-- The mapping of some fields to their headers. -/
def mappingOf (smi : Smi) (runner : Runner σ) (fields : List String) : Session σ Mapping := do
  return .ofLists fields (← headersOf smi runner fields)

/-- The mapping that a request leads to: `resolve_fields`. -/
def resolve (request : Request) (smi : Smi) (runner : Runner σ) : Session σ Mapping := do
  match request with
  | .explicit fields => mappingOf smi runner (withRequired fields)
  | .autoDetect =>
    match ← Session.attempt (detect smi runner) with
    | .ok found =>
      let fields := withRequired found
      Session.note smi.channel .info
        ("Auto-detected " ++ Text.integerText fields.length ++ " query fields")
      mappingOf smi runner fields
    | .error e =>
      if isDetectionFault e then
        Session.note smi.channel .warning
          ("Failed to auto-detect query fields, falling back to the built-in list: " ++ e.message)
        return catalogMapping
      else throw e

end GpuMetrics.Field
