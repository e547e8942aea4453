import GpuMetrics.Text.Case
import GpuMetrics.Text.Digit
import GpuMetrics.Text.Pieces

/-!
# Log levels

A level is a number; the usual levels have names. A channel shows the records at its level or above,
and a channel whose level is zero takes the level of the channel it belongs to.
-/

namespace GpuMetrics.Log

/-- The weight of a record. -/
abbrev Level := Int

namespace Level

/-- Records that follow the program step by step. -/
def debug : Level := 10

/-- Records of the ordinary course of things. -/
def info : Level := 20

/-- Records of something unexpected that is dealt with. -/
def warning : Level := 30

/-- Records of a failure. -/
def error : Level := 40

/-- Records of a failure that ends the program. -/
def critical : Level := 50

/-- The names that a level can be given by. -/
def names : List (String × Level) := [
  ("CRITICAL", critical), ("FATAL", critical), ("ERROR", error), ("WARNING", warning),
  ("WARN", warning), ("INFO", info), ("DEBUG", debug), ("NOTSET", 0)]

/-- The level of a name in letters of any case. -/
def ofName? (name : String) : Option Level :=
  (names.find? fun e => e.1 == Text.uppered name).map (·.2)

/-- How a record names its level. Of two names for one level the first is used. -/
def name (level : Level) : String :=
  match names.find? fun e => e.2 == level with
  | some e => e.1
  | none => "Level " ++ Text.integerText level

/-- The level from which on records are shown. A level of zero leaves the choice to the outermost
channel, which shows warnings. -/
def threshold (level : Level) : Level := if level = 0 then warning else level

end Level

/-- A name that no level has. -/
structure UnknownLevel where
  name : String
  deriving DecidableEq, Repr

/-- How a message names the fault. -/
def UnknownLevel.message (e : UnknownLevel) : String := "Unknown log level: " ++ e.name

/-- The level of a name in letters of any case: `resolve_level`. -/
def levelOf (name : String) : Except UnknownLevel Level :=
  match Level.ofName? name with
  | some l => .ok l
  | none => .error ⟨name⟩

end GpuMetrics.Log
