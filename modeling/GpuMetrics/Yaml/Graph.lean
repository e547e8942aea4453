import GpuMetrics.Yaml.Tag
import GpuMetrics.Yaml.Token

/-!
# Nodes

A document is made of nodes: texts, lists and tables, each with a tag. The nodes are numbered, and
a list or a table names its nodes by their numbers, so that a node can stand at several places, also
in itself.
-/

namespace GpuMetrics.Yaml

/-- What a node holds. Other nodes are named by their numbers. -/
inductive Content
  | /-- A text, whose tag tells how to read it. -/
    scalar (text : Text.Wording)
  | /-- A list. -/
    sequence (items : List Nat)
  | /-- A table. -/
    mapping (entries : List (Nat × Nat))
  deriving DecidableEq, Repr

/-- How a message names the kind of a content. -/
def Content.kindName : Content → String
  | scalar _ => "scalar"
  | sequence _ => "sequence"
  | mapping _ => "mapping"

/-- A value as it is written. -/
structure Node where
  tag : Tag
  content : Content
  deriving DecidableEq, Repr

/-- The nodes by their numbers. -/
abbrev Graph := Array Node

namespace Graph

/-- The tag of a node. -/
def tagOf (g : Graph) (i : Nat) : Tag := (g[i]?.map Node.tag).getD .null

/-- The content of a node. -/
def contentOf (g : Graph) (i : Nat) : Content := (g[i]?.map Node.content).getD (.scalar "")

/-- The entries of a table; other nodes have none. -/
def entriesOf (g : Graph) (i : Nat) : List (Nat × Nat) :=
  match g.contentOf i with
  | .mapping entries => entries
  | _ => []

/-- Whether a node is a table. -/
def isMapping (g : Graph) (i : Nat) : Bool :=
  match g.contentOf i with
  | .mapping _ => true
  | _ => false

/-- Gives a node another content. -/
def withContent (g : Graph) (i : Nat) (c : Content) : Graph :=
  g.modify i fun n => { n with content := c }

/-- Gives a node another tag. -/
def withTag (g : Graph) (i : Nat) (t : Tag) : Graph := g.modify i fun n => { n with tag := t }

/-- The fault of a content of another kind than its tag asks for. -/
def kindFault (asked : String) (found : Content) : Fault :=
  .malformed ("expected a " ++ asked ++ " node, but found " ++ found.kindName)

/-- The text of a node, which is found in at most `n` steps. A table stands for the value under its
equals sign. -/
def textFrom (g : Graph) : Nat → Nat → Except Fault Text.Wording
  | 0, _ => .error .endless
  | n + 1, i =>
    match g.contentOf i with
    | .scalar text => .ok text
    | .mapping entries =>
      match entries.find? fun e => g.tagOf e.1 = .value with
      | some e => textFrom g n e.2
      | none => .error (kindFault "scalar" (g.contentOf i))
    | c => .error (kindFault "scalar" c)

/-- The text of a node. More steps than there are nodes lead in a circle. -/
def textOf (g : Graph) (i : Nat) : Except Fault Text.Wording := g.textFrom (g.size + 1) i

end Graph

end GpuMetrics.Yaml
