import GpuMetrics.Yaml.Lines
import GpuMetrics.Yaml.Merge
import GpuMetrics.Yaml.Node
import GpuMetrics.Yaml.Value

/-!
# Documents written in YAML

The value of a document is made from its nodes. A node that stands for a text is read where it is
met, while a collection is only noted there and filled later, in the order in which collections were
met. So of several faults the one nearest to the root is told, and a collection that holds itself
can be made. It is no document, though, because a document has an end.
-/

namespace GpuMetrics.Yaml

/-! ## Collections -/

/-- What has been made of a node. -/
inductive Part
  | /-- A value. -/
    value (d : Document)
  | /-- A collection, known by the number of its node. -/
    collection (node : Nat)

/-- A collection with what it holds. -/
inductive Filling
  | /-- A list. -/
    list (items : List Part)
  | /-- A table. -/
    table (entries : Keyed Key Part)
  | /-- A set, of which no setting takes the items. -/
    set (empty : Bool)
  | /-- A list of pairs, of which no setting takes the pairs. -/
    pairs (count : Nat)

/-- How far the making of a document has come. -/
structure Making where
  graph : Graph
  /-- What has been made of each node. -/
  parts : Array (Option Part)
  /-- The collections in the order in which they were met. -/
  met : Array Nat
  /-- The collections that have been filled. -/
  filled : Array (Option Filling)

/-- A step in the making of a document. -/
abbrev Make (α : Type) := StateT Making (Except Fault) α

namespace Make

/-- Notes what has been made of a node. -/
def note (i : Nat) (p : Part) : Make Part :=
  modifyGet fun m => (p, { m with parts := m.parts.setIfInBounds i (some p) })

/-- Makes of a node what can be made of it at once. -/
def part (i : Nat) : Make Part := do
  let m ← get
  match m.parts[i]? with
  | some (some p) => return p
  | _ =>
    if isCollection (m.graph.tagOf i) then
      modify fun m => { m with met := m.met.push i }
      note i (.collection i)
    else match m.graph.valueOf i with
      | .error e => throw e
      | .ok d => note i (.value d)

/-- A part as the key of a table. Collections are no keys. -/
def keyOf : Part → Make Key
  | .value (.text w) => return .name w
  | .value .null => return .other "None"
  | .value (.flag b) => return .other (if b then "True" else "False")
  | .value (.integer i) => return .other (Text.integerText i)
  | .value d => return .other d.kindName
  | .collection _ => throw Graph.tableFault

/-- The items of a list. -/
def items (i : Nat) : Make (List Part) := do
  match (← get).graph.contentOf i with
  | .sequence items => items.mapM part
  | c => throw (Graph.kindFault "sequence" c)

/-- The entries of a table, after those of other tables have been merged into it. -/
def entries (i : Nat) : Make (Keyed Key Part) := do
  let m ← get
  if !m.graph.isMapping i then throw (Graph.kindFault "mapping" (m.graph.contentOf i))
  match m.graph.merge i with
  | .error e => throw e
  | .ok g =>
    modify fun m => { m with graph := g }
    let entries ← (g.entriesOf i).mapM fun (k, v) => do
      let key ← keyOf (← part k)
      return (key, ← part v)
    return Keyed.ofList entries

/-- Makes the key and the value of a table with one entry. -/
def pair (fault : Fault) (i : Nat) : Make Unit := do
  match (← get).graph.contentOf i with
  | .mapping [(k, v)] => do
    let _ ← part k
    let _ ← part v
  | _ => throw fault

/-- Makes the pairs of a list and counts them. -/
def pairs (what : String) (i : Nat) : Make Nat := do
  let fault : Fault := .malformed ("while constructing " ++ what)
  match (← get).graph.contentOf i with
  | .sequence items =>
    items.forM (pair fault)
    return items.length
  | _ => throw fault

/-- Makes what a collection holds. -/
def filling (i : Nat) : Make Filling := do
  match (← get).graph.tagOf i with
  | .mapping => return .table (← entries i)
  | .set => return .set (← entries i).isEmpty
  | .orderedMap => return .pairs (← pairs "an ordered map" i)
  | .pairs => return .pairs (← pairs "pairs" i)
  | _ => return .list (← items i)

/-- Fills the collections from the `k`-th on that was met, at most `n` of them. -/
def fillFrom : Nat → Nat → Make Unit
  | 0, _ => return
  | n + 1, k => do
    match (← get).met[k]? with
    | none => return
    | some i =>
      let f ← filling i
      modify fun m => { m with filled := m.filled.setIfInBounds i (some f) }
      fillFrom n (k + 1)

end Make

/-! ## Documents -/

/-- The document of a part, in which collections stand in each other at most `n` deep. -/
def unfold (filled : Array (Option Filling)) : Nat → Part → Except Fault Document
  | _, .value d => .ok d
  | 0, .collection _ => .error .endless
  | n + 1, .collection i =>
    match filled[i]? with
    | some (some (.list items)) => (items.mapM (unfold filled n)).map .list
    | some (some (.table entries)) =>
      (entries.mapM fun e => (unfold filled n e.2).map (e.1, ·)).map .table
    | some (some (.set empty)) => .ok (.foreign "set" empty)
    | some (some (.pairs count)) => .ok (.list (List.replicate count (.foreign "tuple" false)))
    | _ => .ok .null

/-- The value of a node. Collections in each other are no more than there are, unless one holds
itself. -/
def Graph.document (g : Graph) (root : Nat) : Except Fault Document :=
  let nothing {α : Type} : Array (Option α) := Array.replicate g.size none
  let make : Make Part := do
    let p ← Make.part root
    Make.fillFrom g.size 0
    return p
  (make.run ⟨g, nothing, #[], nothing⟩).bind fun (p, m) => unfold m.filled m.met.size p

/-- The document that a text writes: `safe_load`. A text without a document writes nothing. -/
def load (s : String) : Except Fault Document :=
  match Graph.ofTokens? (tokens (withLineFeeds s.toList)) with
  | .error e => .error e
  | .ok none => .ok .null
  | .ok (some (g, root)) => g.document root

end GpuMetrics.Yaml
