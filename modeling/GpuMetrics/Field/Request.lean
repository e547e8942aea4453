import GpuMetrics.Keyed
import GpuMetrics.Text.Blank
import GpuMetrics.Text.Pieces
import GpuMetrics.Text.Quoted

/-!
# Which fields to ask for

The fields are listed, or left to the tool, which is asked what it supports. Six fields that tell
the devices apart are always added, and a field is asked for once.
-/

namespace GpuMetrics.Field

/-! ## Required fields -/

/-- A field that tells devices apart, and the label that shows it. -/
structure Identity where
  queryField : String
  label : String
  deriving DecidableEq, Repr

/-- The field whose value tells one device from all others. -/
def uuid : String := "uuid"

/-- The fields that are always asked for, in the order of their labels. -/
def required : List Identity := [
  ⟨uuid, "uuid"⟩,
  ⟨"name", "name"⟩,
  ⟨"driver_model.current", "driver_model_current"⟩,
  ⟨"driver_model.pending", "driver_model_pending"⟩,
  ⟨"vbios_version", "vbios_version"⟩,
  ⟨"driver_version", "driver_version"⟩]

/-- The names without repeats, each at its first place. -/
def distinctFrom (seen : List String) : List String → List String
  | [] => []
  | q :: r => if q ∈ seen then distinctFrom seen r else q :: distinctFrom (q :: seen) r

/-- The names without repeats, each at its first place: `remove_duplicates`. -/
def distinct (names : List String) : List String := distinctFrom [] names

/-- The fields with the required ones behind them, each field once: `with_required_fields`. -/
def withRequired (fields : List String) : List String :=
  distinct (fields ++ required.map (·.queryField))

/-! ## Requests -/

/-- The fields that are asked for: a `FieldSpec`. -/
inductive Request
  | /-- The fields of a list. -/
    explicit (fields : List String)
  | /-- Every field that the tool supports. -/
    autoDetect
  deriving DecidableEq, Repr

/-- The word that leaves the choice to the tool. -/
def autoWord : String := "AUTO"

/-- A list of fields in which a name is missing. -/
structure Malformed where
  raw : String
  deriving DecidableEq, Repr

/-- What the message for a list in which a name is missing begins with. -/
def malformedHeadline : String := "Malformed query field list: "

/-- How a message names the fault. -/
def Malformed.message (e : Malformed) : String := malformedHeadline ++ Text.quoted e.raw

namespace Request

/-- The names between the commas of a list, trimmed. -/
def namesOf (raw : String) : List (List Char) := (Text.pieces ',' raw.toList).map Text.trim

/-- The request that a text writes, as `FieldSpec.parse` reads it. -/
def parse (raw : String) : Except Malformed Request :=
  if raw = autoWord then .ok .autoDetect
  else
    let names := namesOf raw
    if names.any List.isEmpty then .error ⟨raw⟩
    else .ok (.explicit (names.map String.ofList))

/-- The fields of a list; a request that leaves them to the tool has none. -/
def fields : Request → List String
  | explicit fields => fields
  | autoDetect => []

/-- Whether the choice is left to the tool. -/
def isAuto : Request → Bool
  | explicit _ => false
  | autoDetect => true

/-- The name of the request's kind. -/
def kind : Request → String
  | explicit _ => "explicit"
  | autoDetect => "auto_detect"

end Request

end GpuMetrics.Field
