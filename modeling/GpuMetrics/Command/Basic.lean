import GpuMetrics.Decimal.Layout
import GpuMetrics.Text.Digit
import GpuMetrics.Text.Pieces
import GpuMetrics.Text.Quoted
import GpuMetrics.Text.Utf8

/-!
# Runs of a command

What a finished run leaves behind, and why a run can fail. A failure carries the command, the exit
code and the two output streams, and its message shows all of them.
-/

namespace GpuMetrics

/-- A command line and the seconds it may take; without a limit it may take forever. -/
structure Invocation where
  command : List String
  timeout : Option Float

/-- What a finished run leaves behind: a `CommandResult`. -/
structure RunResult where
  command : List String
  exitCode : Int
  stdout : String
  stderr : String
  deriving DecidableEq, Repr

/-- The exit code of a run that could not be started or finished. -/
def unknownExitCode : Int := -1

/-- Why a run failed. -/
inductive RunFailure.Cause
  | /-- The command ended with an exit code other than zero. -/
    exited
  | /-- There is no such command. -/
    notFound (detail : String)
  | /-- The command must not be run. -/
    notPermitted (detail : String)
  | /-- The command could not be started for another reason. -/
    notStarted (detail : String)
  | /-- The command took longer than it may. -/
    timedOut (limit : Float)
  | /-- A stop was requested while the command ran. -/
    cancelled
  | /-- The output of the command is no table. -/
    unreadable (detail : String)
  | /-- A failure that a runner reports in its own words; `byExit` tells whether the command ran and
    ended with an exit code other than zero. -/
    reported (reason : String) (byExit : Bool)

/-- How a message names the cause. -/
def RunFailure.Cause.reason : RunFailure.Cause → String
  | exited => "command failed"
  | notFound detail => "command not found: " ++ detail
  | notPermitted detail => "permission denied: " ++ detail
  | notStarted detail => "failed to start command: " ++ detail
  | timedOut limit => "command timed out after " ++ Decimal.text limit ++ "s"
  | cancelled => "command cancelled"
  | unreadable detail => "failed to parse output: " ++ detail
  | reported reason _ => reason

/-- Whether the command ran to its end and then failed by its exit code. -/
def RunFailure.Cause.isExit : RunFailure.Cause → Bool
  | exited => true
  | reported _ byExit => byExit
  | _ => false

/-- A run that failed: a `CommandError`, or a `CommandExitError` if its cause is the exit code. -/
structure RunFailure where
  cause : RunFailure.Cause
  command : List String
  exitCode : Int
  stdout : String
  stderr : String

/-- The words of a command line with spaces between them. -/
def commandText (command : List String) : String := Text.joined " " command

/-- The message of a failed run. -/
def RunFailure.message (f : RunFailure) : String :=
  f.cause.reason ++ ": code: " ++ Text.integerText f.exitCode ++ " | command: "
    ++ commandText f.command ++ " | stdout: " ++ f.stdout ++ " | stderr: " ++ f.stderr

/-- Kinds of trouble that the surroundings of a run can raise. -/
inductive Trouble.Kind
  | /-- A value that cannot be used. -/
    value
  | /-- Trouble of no particular kind. -/
    runtime
  | /-- Something that is not there. -/
    fileNotFound
  | /-- Something that is not allowed. -/
    permission
  | /-- Something that should be a directory and is none. -/
    notADirectory
  | /-- Other trouble of the operating system. -/
    system
  | /-- A key that is not there. -/
    key
  | /-- A value of a type that is not taken. -/
    wrongType
  | /-- A number that is too large to be counted with. -/
    overflow
  deriving DecidableEq, Repr

/-- Trouble that the surroundings of a run raise. -/
structure Trouble where
  kind : Trouble.Kind
  text : String
  deriving DecidableEq, Repr

/-- The message of the trouble. A missing key is shown between quotes. -/
def Trouble.message (t : Trouble) : String :=
  match t.kind with
  | .key => Text.quoted t.text
  | _ => t.text

/-- An output stream of a process: not there, bytes, or already a text. -/
inductive Stream
  | /-- The stream is not there. -/
    absent
  | /-- The bytes of the stream. -/
    bytes (data : List UInt8)
  | /-- The text of the stream. -/
    text (data : String)
  deriving DecidableEq, Repr

/-- The text of an output stream: `_decode`. -/
def Stream.decode : Stream → String
  | absent => ""
  | bytes data => Text.decodeUtf8 data
  | text data => data

end GpuMetrics
