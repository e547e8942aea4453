import GpuMetrics.Yaml.Graph

/-!
# Merging tables

The value of a merge key is a table, or a list of tables, whose entries belong to the table that has
the key. They come in front of the table's own entries, so that these win; of several tables in a
list the first one wins. The tables that are merged merge others first.
-/

namespace GpuMetrics.Yaml.Graph

/-- The fault of a table that cannot be made. -/
def tableFault : Fault := .malformed "while constructing a mapping"

/-- The number of merge keys in the tables. -/
def mergeCount (g : Graph) : Nat :=
  g.foldl (fun n node =>
    match node.content with
    | .mapping entries => n + (entries.filter fun e => g.tagOf e.1 = .merge).length
    | _ => n) 0

/-- The tables that a node gives to a merge. -/
def sources (g : Graph) (i : Nat) : Except Fault (List Nat) :=
  match g.contentOf i with
  | .mapping _ => .ok [i]
  | .sequence items => if items.all g.isMapping then .ok items else .error tableFault
  | .scalar _ => .error tableFault

/-- Makes texts of the equals signs among the keys of some entries. -/
def withPlainKeys (g : Graph) (entries : List (Nat × Nat)) : Graph :=
  entries.foldl (fun g e => if g.tagOf e.1 = .value then g.withTag e.1 .text else g) g

/-- Merges the tables under the merge keys of a table into it; there are fewer than `n` of them in
all tables. `merged` holds the entries so far. -/
def mergeFrom : Nat → List (Nat × Nat) → Graph → Nat → Except Fault Graph
  | 0, _, g, _ => .ok g
  | n + 1, merged, g, i =>
    let entries := g.entriesOf i
    match entries.find? fun e => g.tagOf e.1 = .merge with
    | none =>
      .ok ((g.withPlainKeys entries).withContent i (.mapping (merged ++ entries)))
    | some e =>
      match g.sources e.2 with
      | .error f => .error f
      | .ok tables =>
        let g := g.withContent i (.mapping (entries.erase e))
        let step := fun (state : Graph × List (List (Nat × Nat))) (table : Nat) =>
          (mergeFrom n [] state.1 table).map fun g => (g, g.entriesOf table :: state.2)
        match tables.foldlM step (g, []) with
        | .error f => .error f
        | .ok (g, parts) => mergeFrom n (merged ++ parts.flatten) g i

/-- A graph in which a table has no merge keys, as `flatten_mapping` leaves it. -/
def merge (g : Graph) (i : Nat) : Except Fault Graph := mergeFrom (g.mergeCount + 1) [] g i

end GpuMetrics.Yaml.Graph
