import GpuMetrics.Text.Digit

/-!
# Families of samples

A family is a metric with a name, a kind, a description and samples, each under a name and labels of
its own. Which names a family may have depends on the rule in force.
-/

namespace GpuMetrics.Metric

/-- The kinds of metrics. -/
inductive Kind
  | /-- A value that goes up and down. -/
    gauge
  | /-- A value that only goes up. -/
    counter
  deriving DecidableEq, Repr

/-- How an exposition names a kind. -/
def Kind.name : Kind → String
  | gauge => "gauge"
  | counter => "counter"

/-- One value under a name and labels. -/
structure Sample where
  name : String
  labels : List (String × String)
  value : Float

/-- A metric and its samples. -/
structure Family where
  name : String
  kind : Kind
  documentation : String
  samples : List Sample

/-- Which names a family may have. -/
inductive NameRule
  | /-- Any name but the empty one. -/
    anyName
  | /-- Letters, digits, underscores and colons of ASCII, with no digit in front. -/
    plainName
  deriving DecidableEq, Repr

/-- A name that no family may have. -/
inductive NameFault
  | /-- The name is empty. -/
    empty
  | /-- The name has a character that it may not have. -/
    invalid (name : String)
  deriving DecidableEq, Repr

/-- How a message names the fault. -/
def NameFault.message : NameFault → String
  | .empty => "metric name cannot be empty"
  | .invalid name => "invalid metric name " ++ name

/-- A character that a plain name may begin with. -/
def isNameStart (c : Char) : Bool :=
  (65 ≤ c.toNat && c.toNat ≤ 90) || (97 ≤ c.toNat && c.toNat ≤ 122) || c = '_' || c = ':'

/-- A character that a plain name may have behind its first one. -/
def isNameChar (c : Char) : Bool := isNameStart c || Text.isAsciiDigit c

/-- A plain name: letters, digits, underscores and colons of ASCII, with no digit in front. -/
def isPlain : List Char → Bool
  | [] => false
  | c :: r => isNameStart c && r.all isNameChar

/-- A text without the line end behind it, if it has one. -/
def withoutLineEnd (s : List Char) : List Char :=
  if s.getLast? = some '\n' then s.dropLast else s

/-- A plain name that may have a line end behind it. -/
def isPlainLine (s : List Char) : Bool := isPlain (withoutLineEnd s)

/-- Accepts the names that the rule allows. No rule allows the empty name. -/
def NameRule.check (rule : NameRule) (name : String) : Except NameFault Unit :=
  if name.isEmpty then .error .empty
  else match rule with
    | anyName => .ok ()
    | plainName => if isPlainLine name.toList then .ok () else .error (.invalid name)

/-- A gauge without samples: a new `GaugeMetricFamily`. -/
def gauge (rule : NameRule) (name documentation : String) : Except NameFault Family :=
  (rule.check name).map fun _ => ⟨name, .gauge, documentation, []⟩

/-- The ending of a counter's samples. -/
def totalEnding : String := "_total"

/-- A name without an ending, if it has it. -/
def withoutEnding (ending name : String) : String :=
  let cs := name.toList
  if ending.toList.isSuffixOf cs then
    String.ofList (cs.take (cs.length - ending.toList.length))
  else name

/-- A counter without samples: a new `CounterMetricFamily`. The ending of its samples is no part of
its name. -/
def counter (rule : NameRule) (name documentation : String) : Except NameFault Family :=
  let base := withoutEnding totalEnding name
  (rule.check base).map fun _ => ⟨base, .counter, documentation, []⟩

/-- A family with one more sample. A counter's samples have an ending. -/
def Family.withSample (f : Family) (labels : List (String × String)) (value : Float) : Family :=
  let name := match f.kind with
    | .gauge => f.name
    | .counter => f.name ++ totalEnding
  { f with samples := f.samples ++ [⟨name, labels, value⟩] }

end GpuMetrics.Metric
