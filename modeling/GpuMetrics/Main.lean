import GpuMetrics.Command.Script
import GpuMetrics.Program

/-!
# The command line

The outermost layer: it reads the file and the variables that the command line leads to, lets the
program do what they ask for, and prints what comes of it. What the tool prints is read from the
standard input, and every run of the tool gives all of it. A service answers one request for its
metrics and ends.
-/

namespace GpuMetrics.Console

/-- The path of the file of settings that a command line names. -/
def pathOf? (words : List String) : Option String :=
  match CommandLine.parse words with
  | .ok (.run a) =>
    match a.config with
    | some (.value path) => some path
    | _ => none
  | _ => none

/-- The file under a path, if there is one that can be read. -/
def readFiles (path? : Option String) : IO Files := do
  match path? with
  | none => return {}
  | some path => try return { texts := [(path, ← IO.FS.readFile path)] } catch _ => return {}

/-- The names of the variables that matter: those with settings and those that a file names. -/
def namesFor (files : Files) : List String :=
  Environment.settingNames.map (fun e => Environment.stem ++ e.1) ++
  files.texts.flatMap fun f =>
    match Yaml.load f.2 with
    | .ok d => Environment.namesOf d
    | .error _ => []

/-- The variables of some names. -/
def readVariables (names : List String) : IO Environment := do
  let found ← names.mapM fun n => return (← IO.getEnv n).map fun v => (n, (v : Text.Wording))
  return found.filterMap id

/-- What is left of a stream. -/
partial def readAll (input : IO.FS.Stream) (before : String) : IO String := do
  let line ← input.getLine
  if line.isEmpty then return before else readAll input (before ++ line)

/-- A tool whose runs all print the same. -/
def toolThatPrints (text : String) : Script :=
  ⟨[.finishing 0 text "" false], [.finishing 0 text "" false]⟩

/-- The request for the metrics. -/
def request : Intent → List (Service.Event Script)
  | .serve s => [.request (Web.requestLine s.web.telemetryPath.outline)]
  | _ => []

/-- The bodies of the responses of a service. -/
def bodies (run : Service.Run) : List String :=
  run.answers.filterMap fun a =>
    match a with
    | .response (.ok r) => some r.sentBody
    | _ => none

/-- Prints how the program ends. -/
def report (e : Ending) : IO Unit := do
  IO.print e.text
  for c in e.complaint? do IO.eprintln c
  for run in e.run? do (bodies run).forM IO.print

/-- Does what a command line asks for and gives the exit code. -/
def run (words : List String) : IO UInt32 := do
  let files ← readFiles (pathOf? words)
  let env ← readVariables (namesFor files)
  let intent := Intent.of words files env
  let tool ← match intent with
    | .list _ => readAll (← IO.getStdin) ""
    | .serve _ => readAll (← IO.getStdin) ""
    | _ => pure ""
  let session := intent.carryOut .anyName .willing Script.runner (request intent)
  let (result, site) := session.on (Site.initial (toolThatPrints tool))
  let time := Text.integerText (← IO.monoMsNow)
  for r in site.records do
    if r.isShown intent.level then IO.println (r.line time time)
  match result with
  | .ok e =>
    report e
    return UInt32.ofNat e.exitCode
  | .error fault =>
    IO.eprintln fault.message
    return 1

end GpuMetrics.Console

/-- The program. -/
def main (words : List String) : IO UInt32 := GpuMetrics.Console.run words
