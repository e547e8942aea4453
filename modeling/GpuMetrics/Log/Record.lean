import GpuMetrics.Document.Json
import GpuMetrics.Log.Level

/-!
# Log records

A record has a channel, a level, a message and further values under names. On a line of JSON come
the time, the channel, the level and the message, then the further values in their order, then the
time stamp. Some names belong to every record, and no further value can have one of them; a further
value whose name begins with an underscore is not shown.
-/

namespace GpuMetrics.Log

/-- One entry of the log. -/
structure Record where
  channel : String
  level : Level
  message : String
  extra : List (String × Document)

/-- A record without further values. -/
def Record.plain (channel : String) (level : Level) (message : String) : Record :=
  ⟨channel, level, message, []⟩

/-- The names that belong to every record. -/
def reservedNames : List String := [
  "message", "asctime", "name", "msg", "args", "levelname", "levelno", "pathname", "filename",
  "module", "exc_info", "exc_text", "stack_info", "lineno", "funcName", "created", "msecs",
  "relativeCreated", "thread", "threadName", "processName", "process"]

/-- The first further value whose name belongs to every record. -/
def Record.clash? (r : Record) : Option String :=
  (r.extra.find? fun e => reservedNames.contains e.1).map (·.1)

/-- How a message names a clash. -/
def clashMessage (name : String) : String :=
  "Attempt to overwrite " ++ Text.quoted name ++ " in LogRecord"

/-- The values of a line in their order. -/
def Record.fields (r : Record) (time stamp : String) : Keyed String Document :=
  let own := [("asctime", Document.text time), ("name", .text r.channel),
    ("levelname", .text r.level.name), ("message", .text r.message)]
  let shown := r.extra.filter fun e => !Text.startsWith "_" e.1
  Keyed.put (own ++ shown) "timestamp" (.text stamp)

/-- The record as a line of JSON. -/
def Record.line (r : Record) (time stamp : String) : String :=
  (Document.ofFields (r.fields time stamp)).json

/-- Whether a channel of the given level shows the record. -/
def Record.isShown (r : Record) (level : Level) : Bool := level.threshold ≤ r.level

/-- The channel that belongs to another under a name of its own. -/
def subchannel (channel name : String) : String := channel ++ "." ++ name

end GpuMetrics.Log
