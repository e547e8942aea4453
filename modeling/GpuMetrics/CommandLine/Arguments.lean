import GpuMetrics.CommandLine.Option
import GpuMetrics.Decimal.Numeral
import GpuMetrics.Text.Case
import GpuMetrics.Text.Quoted

/-!
# Arguments of the command line

An option may be spelt by the beginning of its name if no other option begins with it. Its value
follows in the next word or behind an equals sign; of repeated options the last counts. A word that
begins with a hyphen is an option, unless it looks like a negative number or has a space in it. Two
hyphens behind an equals sign take the value back. There are no other arguments than options and
their values. Words of which it is not clear which option they spell are found before anything
else.
-/

namespace GpuMetrics.CommandLine

/-! ## Faults -/

/-- What can be wrong with a command line. -/
inductive Misuse
  | /-- A word spells the beginning of several options. -/
    ambiguous (word : String) (options : List String)
  | /-- The value of an option is missing. -/
    noValue (option : Choice)
  | /-- The value of an option should be a number. -/
    noNumber (option : Choice) (value : String)
  | /-- The value of an option should be a level of the log. -/
    noLevel (option : Choice) (value : String)
  | /-- An option that takes no value has one. -/
    needlessValue (option : Choice) (value : String)
  | /-- Words belong to no option. -/
    unknown (words : List String)
  deriving DecidableEq, Repr

/-- A message on an option. -/
def onOption (o : Choice) (message : String) : String :=
  "argument " ++ o.label ++ ": " ++ message

/-- How a message names the fault. -/
def Misuse.message : Misuse → String
  | ambiguous word options =>
    "ambiguous option: " ++ word ++ " could match " ++ Text.joined ", " options
  | noValue o => onOption o "expected one argument"
  | noNumber o value => onOption o ("invalid float value: " ++ Text.quoted value)
  | noLevel o value =>
    onOption o ("invalid choice: " ++ Text.quoted value ++ " (choose from "
      ++ Text.joined ", " (Choice.levels.map Text.quoted) ++ ")")
  | needlessValue o value => onOption o ("ignored explicit argument " ++ Text.quoted value)
  | unknown words => "unrecognized arguments: " ++ Text.joined " " words

/-! ## Words -/

/-- What a word of the command line is. -/
inductive Word
  | /-- Two hyphens, behind which there are no options. -/
    separator
  | /-- A value. -/
    value
  | /-- An option, with a value if one stands in the same word. -/
    option (o : Choice) (attached : Option String)
  | /-- A word like an option that spells none. -/
    unknown
  deriving DecidableEq, Repr

/-- Two hyphens. -/
def separatorWord : String := "--"

/-- A number with a minus sign, perhaps with a point in it; a line end behind it does not count. -/
def isNegativeNumber (s : List Char) : Bool :=
  let s := if s.getLast? = some '\n' then s.dropLast else s
  match s with
  | '-' :: r =>
    match Text.cutFirst '.' r with
    | (whole, none) => !whole.isEmpty && whole.all Text.isDecimal
    | (whole, some rest) => whole.all Text.isDecimal && !rest.isEmpty && rest.all Text.isDecimal
  | _ => false

/-- The spelling in front of an equals sign, and what stands behind it. -/
def cutEquals (s : List Char) : List Char × Option String :=
  match Text.cutFirst '=' s with
  | (name, some value) => (name, some (String.ofList value))
  | (name, none) => (name, none)

/-- The options that a word may spell, each with its spelling and the value in the word. -/
def candidates (s : List Char) : List (String × Word) :=
  if separatorWord.toList.isPrefixOf s then
    let (name, attached) := cutEquals s
    (Choice.spelt.filter fun e => name.isPrefixOf e.1.toList).map fun e =>
      (e.1, .option e.2 attached)
  else
    Choice.spelt.filterMap fun e =>
      if e.1.toList = s.take 2 then some (e.1, .option e.2 (some (String.ofList (s.drop 2))))
      else if s.isPrefixOf e.1.toList then some (e.1, .option e.2 none)
      else none

/-- What a word in front of two hyphens is. -/
def classify (word : String) : Except Misuse Word :=
  let s := word.toList
  if s.head? ≠ some '-' then .ok .value
  else match Choice.spelt.lookup word with
    | some o => .ok (.option o none)
    | none =>
      if s.length = 1 then .ok .value
      else
        let (name, attached) := cutEquals s
        match if attached.isSome then Choice.spelt.lookup (String.ofList name) else none with
        | some o => .ok (.option o attached)
        | none =>
          match candidates s with
          | [(_, w)] => .ok w
          | _ :: _ :: _ => .error (.ambiguous word ((candidates s).map (·.1)))
          | [] => .ok (if isNegativeNumber s || s.contains ' ' then .value else .unknown)

/-- What the words of a command line are. Behind two hyphens all of them are values. -/
def classified : List String → Except Misuse (List (String × Word))
  | [] => .ok []
  | w :: r =>
    if w = separatorWord then .ok ((w, .separator) :: r.map fun v => (v, .value))
    else (classify w).bind fun c => (classified r).map ((w, c) :: ·)

/-! ## Arguments -/

/-- What an option was given. -/
inductive Given (α : Type)
  | /-- A value. -/
    value (a : α)
  | /-- A value that was taken back. -/
    nothing
  deriving DecidableEq, Repr

/-- What a command line asks for. -/
structure Arguments where
  config : Option (Given String) := none
  listenAddress : Option (Given String) := none
  telemetryPath : Option (Given String) := none
  command : Option (Given String) := none
  queryFieldNames : Option (Given String) := none
  /-- Whether a shutdown is asked for when the tool exits with an error. -/
  shutdownOnError : Bool := false
  commandTimeout : Option (Given Float) := none
  logLevel : Option (Given String) := none
  /-- Whether a list of the fields is asked for. -/
  listQueryFields : Bool := false

/-- What a command line comes to. -/
inductive Request
  | /-- The help is asked for. -/
    help
  | /-- The exporter is to run with some arguments. -/
    run (arguments : Arguments)

/-- The arguments with the value of an option. -/
def Arguments.withValue (a : Arguments) (o : Choice) (value : String) :
    Except Misuse Arguments :=
  match o with
  | .config => .ok { a with config := some (.value value) }
  | .listenAddress => .ok { a with listenAddress := some (.value value) }
  | .telemetryPath => .ok { a with telemetryPath := some (.value value) }
  | .command => .ok { a with command := some (.value value) }
  | .queryFieldNames => .ok { a with queryFieldNames := some (.value value) }
  | .commandTimeout =>
    match Decimal.exactNumber? value with
    | some x => .ok { a with commandTimeout := some (.value x) }
    | none => .error (.noNumber o value)
  | .logLevel =>
    let level := Text.uppered value
    if level ∈ Choice.levels then .ok { a with logLevel := some (.value level) }
    else .error (.noLevel o level)
  | .help | .shutdownOnError | .listQueryFields => .ok a

/-- The arguments with the value of an option taken back. -/
def Arguments.withNothing (a : Arguments) (o : Choice) : Arguments :=
  match o with
  | .config => { a with config := some .nothing }
  | .listenAddress => { a with listenAddress := some .nothing }
  | .telemetryPath => { a with telemetryPath := some .nothing }
  | .command => { a with command := some .nothing }
  | .queryFieldNames => { a with queryFieldNames := some .nothing }
  | .commandTimeout => { a with commandTimeout := some .nothing }
  | .logLevel => { a with logLevel := some .nothing }
  | .help | .shutdownOnError | .listQueryFields => a

/-- The arguments with an option and the value in the same word. -/
def Arguments.withAttached (a : Arguments) (o : Choice) (value : String) :
    Except Misuse Arguments :=
  if value = separatorWord then .ok (a.withNothing o) else a.withValue o value

/-- The arguments with an option that takes no value. -/
def Arguments.withFlag (a : Arguments) (o : Choice) : Arguments :=
  match o with
  | .shutdownOnError => { a with shutdownOnError := true }
  | .listQueryFields => { a with listQueryFields := true }
  | _ => a

/-- What letters behind the short spelling of the help come to: each has to be another short
spelling of it, and what is none of them is a value, which the help does not take. -/
def helpCluster : List Char → Except Misuse Request
  | ['h'] => .ok .help
  | 'h' :: r => helpCluster r
  | s => .error (.needlessValue .help (String.ofList s))

/-- What an option without a value in front of a value in the same word comes to. -/
def needless (word : String) (o : Choice) (value : String) : Except Misuse Request :=
  if Text.startsWith separatorWord word then .error (.needlessValue o value)
  else helpCluster value.toList

/-- Reads the words of a command line. `extra` holds the words so far that belong to no option. -/
def consume (a : Arguments) (extra : List String) :
    List (String × Word) → Except Misuse Request
  | [] => if extra.isEmpty then .ok (.run a) else .error (.unknown extra)
  | (w, .option o attached) :: r =>
    if o.takesValue then
      match attached, r with
      | some v, r => (a.withAttached o v).bind fun a => consume a extra r
      | none, (v, .value) :: r => (a.withValue o v).bind fun a => consume a extra r
      | none, _ => .error (.noValue o)
    else match attached with
      | some v => needless w o v
      | none => if o = .help then .ok .help else consume (a.withFlag o) extra r
  | (w, _) :: r => consume a (extra ++ [w]) r

/-- What a command line asks for: `parse_args` of the parser that `build_parser` gives. -/
def parse (words : List String) : Except Misuse Request :=
  (classified words).bind (consume {} [])

end GpuMetrics.CommandLine
