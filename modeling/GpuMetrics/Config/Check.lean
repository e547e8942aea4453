import GpuMetrics.Config.Basic
import GpuMetrics.Config.Layer
import GpuMetrics.Config.Problem
import GpuMetrics.Decimal.Numeral
import GpuMetrics.Metric.Family
import GpuMetrics.Text.Blank
import GpuMetrics.Text.Case
import GpuMetrics.Text.Utf8

/-!
# From documents to settings

Each setting is looked at by itself: a value is read as what the setting holds, with some freedom in
how it is written, and is then accepted or refused. A setting without a value has its default. If
any value has a problem there are no settings, and all problems are told.
-/

namespace GpuMetrics

namespace Document

/-! ## Reading values -/

/-- The text that a value is. -/
def readText : Document → Except Problem Text.Wording
  | .text w => .ok w
  | .bytes b =>
    match Text.decodeUtf8? b with
    | some s => .ok s
    | none => .error .undecodable
  | _ => .error .notText

/-- The characters of a text, in which no surrogate may stand. -/
def charactersOf (w : Text.Wording) : Except Problem String :=
  match w.string? with
  | some s => .ok s
  | none => .error .undecodable

/-- The words for yes. -/
def yesWords : List String := ["1", "true", "t", "yes", "y", "on"]

/-- The words for no. -/
def noWords : List String := ["0", "false", "f", "no", "n", "off"]

/-- The flag that a word stands for, in letters of any case. -/
def flagOfWord (s : String) : Except Problem Bool :=
  let word := String.ofList (s.toList.map Char.toLower)
  if word ∈ yesWords then .ok true
  else if word ∈ noWords then .ok false
  else .error .unreadableFlag

/-- The flag that a whole number stands for. -/
def flagOfInt (i : Int) : Except Problem Bool :=
  if i = 1 then .ok true else if i = 0 then .ok false else .error .unreadableFlag

/-- The numbers that are taken for whole ones lie below this. -/
def wordLimit : Int := 0x8000000000000000

/-- The flag that a value is. -/
def readFlag : Document → Except Problem Bool
  | .flag b => .ok b
  | .text w => (charactersOf w).bind flagOfWord
  | .bytes b =>
    match Text.decodeUtf8? b with
    | some s => flagOfWord s
    | none => .error .unreadableFlag
  | .integer i =>
    if -wordLimit ≤ i && i < wordLimit then flagOfInt i else .error .notFlag
  | .number x =>
    if x == 1 then .ok true
    else if x == 0 then .ok false
    else if x.floor == x && x.abs < Decimal.ofInt wordLimit then .error .unreadableFlag
    else .error .notFlag
  | _ => .error .notFlag

/-- The number that a text is. -/
def numberOfText (s : String) : Except Problem Float :=
  match Decimal.laxNumber? s with
  | some x => .ok x
  | none => .error .unreadableNumber

/-- The number that a value is. -/
def readNumber : Document → Except Problem Float
  | .number x => .ok x
  | .integer i =>
    let x := Decimal.ofInt i
    if x.isInf then .error .notNumber else .ok x
  | .flag b => .ok (if b then 1 else 0)
  | .text w => (charactersOf w).bind numberOfText
  | .bytes b =>
    match Text.decodeUtf8? b with
    | some s => numberOfText s
    | none => .error .unreadableNumber
  | _ => .error .notNumber

end Document

/-! ## Accepting values -/

/-- Accepts what metric names can begin with: nothing, or a plain name. A line end behind the name
passes, as it does in `validate_prefix`. -/
def checkStem (w : Text.Wording) : Except Problem String :=
  let isStem (s : String) : Bool := s.isEmpty || Metric.isPlainLine s.toList
  match w.string?.filter isStem with
  | some s => .ok s
  | none => .error (.refused (.stem w))

/-- Accepts command lines that are not blank: `validate_command`. -/
def checkCommand (w : Text.Wording) : Except Problem Text.Wording :=
  if Text.allBlank w.outline.toList then .error (.refused .blankCommand) else .ok w

/-- Accepts requests for fields: `validate_query_field_names`. -/
def checkFields (w : Text.Wording) : Except Problem Text.Wording :=
  match Field.Request.parse w.outline with
  | .ok _ => .ok w
  | .error _ => .error (.refused (.fields w))

/-- Accepts numbers greater than zero. -/
def checkPositive (x : Float) : Except Problem Float :=
  if x > 0 then .ok x else .error .notPositive

/-- Accepts addresses: `validate_listen_address`. -/
def checkAddress (w : Text.Wording) : Except Problem Text.Wording :=
  match Address.parse w.outline with
  | .ok _ => .ok w
  | .error e => .error (.refused (.address e))

/-- Accepts paths that begin with a slash: `validate_telemetry_path`. -/
def checkPath (w : Text.Wording) : Except Problem Text.Wording :=
  if Text.startsWith "/" w.outline then .ok w else .error (.refused .relativePath)

/-- Accepts the names of levels in letters of any case, and gives them in capitals:
`validate_log_level`. -/
def checkLogLevel (w : Text.Wording) : Except Problem String :=
  let name := Text.uppered w.outline
  if name ∈ logLevels then .ok name else .error (.refused .logLevel)

/-! ## Settings -/

/-- The value under a key as a setting, or the default if there is none. -/
def setting {α : Type} (entries : Keyed Key Document) (key : String)
    (read : Document → Except Problem α) (fallback : α) : Except Problem α :=
  match Keyed.get? entries (.name key) with
  | some d => read d
  | none => .ok fallback

/-- The problem of a setting with the keys that lead to it, if it has one. -/
def located {α : Type} (path : List String) : Except Problem α → List Located
  | .ok _ => []
  | .error p => [⟨path, p⟩]

/-- The settings of the collector in the entries of a table that `path` leads to: a
`CollectorConfig`. -/
def CollectorSettings.ofEntries (path : List String) (entries : Keyed Key Document) :
    Except (List Located) CollectorSettings :=
  let d : CollectorSettings := {}
  let stem := setting entries "prefix" (fun v => v.readText.bind checkStem) d.stem
  let command :=
    setting entries "nvidia_smi_command" (fun v => v.readText.bind checkCommand) d.command
  let fields :=
    setting entries "query_field_names" (fun v => v.readText.bind checkFields) d.queryFieldNames
  let shutdown := setting entries "shutdown_on_error" Document.readFlag d.shutdownOnError
  let timeout :=
    setting entries "command_timeout" (fun v => v.readNumber.bind checkPositive) d.commandTimeout
  match stem, command, fields, shutdown, timeout with
  | .ok stem, .ok command, .ok fields, .ok shutdown, .ok timeout =>
    .ok ⟨stem, command, fields, shutdown, timeout⟩
  | _, _, _, _, _ => .error <|
    located (path ++ ["prefix"]) stem ++ located (path ++ ["nvidia_smi_command"]) command
      ++ located (path ++ ["query_field_names"]) fields
      ++ located (path ++ ["shutdown_on_error"]) shutdown
      ++ located (path ++ ["command_timeout"]) timeout

/-- The settings of the web server in the entries of a table that `path` leads to: a `WebConfig`. -/
def WebSettings.ofEntries (path : List String) (entries : Keyed Key Document) :
    Except (List Located) WebSettings :=
  let d : WebSettings := {}
  let address :=
    setting entries "listen_address" (fun v => v.readText.bind checkAddress) d.listenAddress
  let metrics :=
    setting entries "telemetry_path" (fun v => v.readText.bind checkPath) d.telemetryPath
  match address, metrics with
  | .ok address, .ok metrics => .ok ⟨address, metrics⟩
  | _, _ => .error <|
    located (path ++ ["listen_address"]) address ++ located (path ++ ["telemetry_path"]) metrics

/-- The settings under a key, which should be a table. Without a value they are the defaults. -/
def part {α : Type} (entries : Keyed Key Document) (key name : String)
    (read : List String → Keyed Key Document → Except (List Located) α) (fallback : α) :
    Except (List Located) α :=
  match Keyed.get? entries (.name key) with
  | none => .ok fallback
  | some (.table inner) => read [key] inner
  | some _ => .error [⟨[key], .notTable name⟩]

/-- The problems of a part of the settings. -/
def problemsOf {α : Type} : Except (List Located) α → List Located
  | .ok _ => []
  | .error l => l

namespace Settings

/-- The settings in the entries of a table: an `ExporterConfig`. -/
def ofEntries (entries : Keyed Key Document) : Except (List Located) Settings :=
  let collector := part entries "collector" "CollectorConfig" CollectorSettings.ofEntries {}
  let web := part entries "web" "WebConfig" WebSettings.ofEntries {}
  let level :=
    setting entries "log_level" (fun v => v.readText.bind checkLogLevel) ({} : Settings).logLevel
  match collector, web, level with
  | .ok collector, .ok web, .ok level => .ok ⟨collector, web, level⟩
  | _, _, _ => .error (problemsOf collector ++ problemsOf web ++ located ["log_level"] level)

/-- Whether a key is a text. -/
def isNamed : Key → Bool
  | .name _ => true
  | .other _ => false

/-- The settings in a document. Its keys have to be texts. -/
def ofDocument : Document → Except Rejection Settings
  | .table entries =>
    if entries.all fun e => isNamed e.1 then (ofEntries entries).mapError .problems
    else .error .foreignKey
  | d => .error (.notTable d.kindName)

/-- The document of some settings. -/
def document (s : Settings) : Document :=
  .ofFields [
    ("collector", .ofFields [
      ("prefix", .text s.collector.stem),
      ("nvidia_smi_command", .text s.collector.command),
      ("query_field_names", .text s.collector.queryFieldNames),
      ("shutdown_on_error", .flag s.collector.shutdownOnError),
      ("command_timeout", .number s.collector.commandTimeout)]),
    ("web", .ofFields [
      ("listen_address", .text s.web.listenAddress),
      ("telemetry_path", .text s.web.telemetryPath)]),
    ("log_level", .text s.logLevel)]

/-- The settings with another layer laid over them: `apply_overrides`. The result is checked
anew. -/
def overlaid (s : Settings) (layer : Document) : Except Rejection Settings :=
  match layer.laidOver s.document with
  | .error e => .error (.layer e)
  | .ok d => ofDocument d

/-- The settings in a document whose placeholders are replaced first: `load_from_dict`. A document
that holds nothing gives the defaults. -/
def load (env : Environment) (d : Document) : Except Rejection Settings :=
  ofDocument (if d.isEmpty then .table [] else env.substitute d)

/-- The request for fields in the settings: `field_spec`. -/
def request (s : Settings) : Except Field.Malformed Field.Request :=
  Field.Request.parse s.collector.queryFieldNames.outline

/-- The address in the settings: `host_port`. -/
def address (s : Settings) : Except Address.Fault Address :=
  Address.parse s.web.listenAddress.outline

end Settings

end GpuMetrics
