import GpuMetrics.CommandLine.Option

/-!
# The help of the command line

The help shows how the program is called, what it does, a line or more for each option, and
examples. Lines are filled with words up to a width, and the descriptions of the options stand in a
column of their own.
-/

namespace GpuMetrics.CommandLine

/-- The name of the program. -/
def program : String := "nvidia-gpu-exporter"

/-- The width of a line. -/
def width : Nat := 78

/-- The column of the descriptions. -/
def column : Nat := 24

/-- So many spaces. -/
def spaces (n : Nat) : String := String.ofList (List.replicate n ' ')

/-- Words in lines that are as full as they can be. `line` is the line in hand. -/
def filledFrom (room : Nat) (line : String) : List String → List String
  | [] => [line]
  | w :: r =>
    if line.length + 1 + w.length ≤ room then filledFrom room (line ++ " " ++ w) r
    else line :: filledFrom room w r

/-- Words in lines that are as full as they can be. -/
def filled (room : Nat) : List String → List String
  | [] => []
  | w :: r => filledFrom room w r

/-- An option as it is called, with its value. -/
def call (o : Choice) (spelling : String) : String :=
  match o.valueName? with
  | some v => spelling ++ " " ++ v
  | none => spelling

/-- The calls of all options, each in the first of its spellings. -/
def calls : List String :=
  Choice.all.map fun o => "[" ++ call o (o.spellings.head?.getD "") ++ "]"

/-- How the program is called. -/
def usage : String :=
  let lead := "usage: " ++ program ++ " "
  let lines := filled (width - lead.length) calls
  lead ++ Text.joined ("\n" ++ spaces lead.length) lines ++ "\n"

/-- The lines of the help on an option. -/
def entry (o : Choice) : String :=
  let head := "  " ++ Text.joined ", " (o.spellings.map (call o))
  let lines := filled (width - column) (Text.piecesOf ' ' o.description)
  let body := Text.joined ("\n" ++ spaces column) lines ++ "\n"
  if head.length + 2 ≤ column then head ++ spaces (column - head.length) ++ body
  else head ++ "\n" ++ spaces column ++ body

/-- What the program does. -/
def summary : String := "Prometheus exporter for NVIDIA GPU metrics collected through nvidia-smi"

/-- The examples. -/
def examples : String :=
  "Examples:\n"
    ++ "  # Auto-detect all query fields and listen on :9835\n"
    ++ "  nvidia-gpu-exporter\n"
    ++ "\n"
    ++ "  # Query a fixed set of fields\n"
    ++ "  nvidia-gpu-exporter --query-field-names fan.speed,memory.used,power.draw\n"
    ++ "\n"
    ++ "  # List the query fields nvidia-smi supports\n"
    ++ "  nvidia-gpu-exporter --list-query-fields\n"
    ++ "        \n"

/-- The help. -/
def helpText : String :=
  usage ++ "\n" ++ summary ++ "\n\noptions:\n" ++ Text.joined "" (Choice.all.map entry) ++ "\n"
    ++ examples

/-- The last line that is shown for a command line with a fault. -/
def misuseText (message : String) : String := program ++ ": error: " ++ message

end GpuMetrics.CommandLine
