import GpuMetrics.Command.Smi

/-!
# A scripted tool

A runner that starts no process but answers from a script. The script has the answers to queries and
the answers to the question for help; each answer is given once, and the last one for ever.
-/

namespace GpuMetrics

namespace Script

/-- One answer of a script. -/
structure Response where
  /-- What the run leaves behind but for its command, or the fault that it ends in. -/
  outcome : List String → Except Fault RunResult
  /-- Whether a stop is requested during the run. -/
  requestsStop : Bool

/-- An answer of a run that ends by itself. -/
def Response.finishing (exitCode : Int) (stdout stderr : String) (requestsStop : Bool) :
    Response :=
  ⟨fun command => .ok ⟨command, exitCode, stdout, stderr⟩, requestsStop⟩

/-- An answer of a run that ends in a fault. -/
def Response.failing (fault : Fault) (requestsStop : Bool) : Response :=
  ⟨fun _ => .error fault, requestsStop⟩

/-- An answer without any output. -/
def Response.silent : Response := .finishing 0 "" "" false

/-- The next answer of a list and what is left of the list. -/
def next : List Response → Response × List Response
  | [] => (.silent, [])
  | [r] => (r, [r])
  | r :: s :: rest => (r, s :: rest)

end Script

/-- The answers of a scripted tool. -/
structure Script where
  /-- The answers to queries. -/
  queries : List Script.Response
  /-- The answers to the question for help. -/
  helps : List Script.Response

namespace Script

/-- The word that asks for help. -/
def helpWord : String := "--help-query-gpu"

/-- Answers from a script. -/
def runner : Runner Script := fun call script =>
  if helpWord ∈ call.command then
    let (r, rest) := next script.helps
    (⟨r.outcome call.command, r.requestsStop⟩, { script with helps := rest })
  else
    let (r, rest) := next script.queries
    (⟨r.outcome call.command, r.requestsStop⟩, { script with queries := rest })

end Script

end GpuMetrics
