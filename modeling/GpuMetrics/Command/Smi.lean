import GpuMetrics.Session

/-!
# The tool

The command that is run, which may have words in front such as `sudo`, and the command lines that
ask it for a table or for its help text. A run succeeds if its exit code is zero.
-/

namespace GpuMetrics

/-- The tool, as `NvidiaSmi` keeps it: the words of its command, the seconds that a run may take,
and the channel that its runs are logged on. -/
structure Smi where
  baseCommand : List String
  timeout : Option Float
  channel : String

namespace Smi

/-- The tool that a command line names. -/
def ofCommand (command : String) (timeout : Option Float) (channel : String) : Except Fault Smi :=
  match Text.ShellWords.words command with
  | .error e => .error (.words e)
  | .ok [] => .error .emptyCommand
  | .ok ws => .ok ⟨ws, timeout, channel⟩

/-- The command line that asks for a table with the columns of some fields: `query_command`. -/
def queryCommand (smi : Smi) (fields : List String) : List String :=
  smi.baseCommand ++ ["--query-gpu=" ++ Text.joined "," fields, "--format=csv"]

/-- The command line that asks for the help text: `help_command`. -/
def helpCommand (smi : Smi) : List String := smi.baseCommand ++ ["--help-query-gpu"]

variable {σ : Type}

/-- Runs a command line, whose exit code has to be zero, as `NvidiaSmi.run` does. -/
def run (smi : Smi) (runner : Runner σ) (command : List String) : Session σ RunResult := do
  Session.note smi.channel .debug ("Executing command: " ++ commandText command)
  let result ← Session.invoke runner ⟨command, smi.timeout⟩
  if result.exitCode ≠ 0 then
    throw (.run ⟨.exited, command, result.exitCode, result.stdout, result.stderr⟩)
  Session.note smi.channel .debug
    ("Command completed successfully (" ++ Text.integerText result.stdout.length ++ " bytes)")
  return result

/-- Asks for a table with the columns of some fields. -/
def query (smi : Smi) (runner : Runner σ) (fields : List String) : Session σ RunResult :=
  smi.run runner (smi.queryCommand fields)

/-- Asks for the help text: `help_query_gpu`. -/
def help (smi : Smi) (runner : Runner σ) : Session σ RunResult :=
  smi.run runner smi.helpCommand

end Smi

end GpuMetrics
