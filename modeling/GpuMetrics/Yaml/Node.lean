import GpuMetrics.Keyed
import GpuMetrics.Text.Quoted
import GpuMetrics.Yaml.Graph
import GpuMetrics.Yaml.Lines

/-!
# From tokens to nodes

A document is one node, with the nodes in it. A node that has a name can be used again behind its
start. A text holds one document at most. The fault of a text is met where a token behind the last
one is asked for.
-/

namespace GpuMetrics.Yaml

/-- What is left of the tokens, and what has been told so far. -/
structure Feed where
  tokens : List Token
  /-- The fault behind the tokens, if there is one. -/
  fault : Option Fault
  /-- What handles stand for. -/
  handles : Keyed String String
  /-- The nodes with a name. -/
  named : Keyed String Nat
  /-- The nodes so far. -/
  nodes : Graph

/-- A reading of tokens. -/
abbrev Read (α : Type) := StateT Feed (Except Fault) α

namespace Read

/-- The next token. -/
def look : Read Token := do
  let f ← get
  match f.tokens, f.fault with
  | t :: _, _ => return t
  | [], some e => throw e
  | [], none => return .streamEnd

/-- Goes on behind the next token. -/
def take : Read Unit := modify fun f => { f with tokens := f.tokens.tail }

/-- Whether the next token is one of a class. -/
def sees (p : Token → Bool) : Read Bool := do return p (← look)

/-- Ends in a fault with a headline. -/
def fail {α : Type} (headline : String) : Read α := throw (.malformed headline)

/-! ## Properties -/

/-- The name and the tag in front of a node. -/
structure Properties where
  anchor : Option String
  tag : Option String

/-- What a tag with a handle says. -/
def tagName (handle : Option String) (suffix : String) : Read String := do
  match handle with
  | none => return suffix
  | some h =>
    match Keyed.get? (← get).handles h with
    | some stands => return stands ++ suffix
    | none => fail "while parsing a node"

/-- Reads the name and the tag in front of a node, in either order. -/
def properties : Read Properties := do
  match ← look with
  | .anchor name =>
    take
    match ← look with
    | .tag handle suffix =>
      take
      return ⟨some name, some (← tagName handle suffix)⟩
    | _ => return ⟨some name, none⟩
  | .tag handle suffix =>
    take
    match ← look with
    | .anchor name =>
      take
      return ⟨some name, some (← tagName handle suffix)⟩
    | _ => return ⟨none, some (← tagName handle suffix)⟩
  | _ => return ⟨none, none⟩

/-- The tag that leaves the kind to the form. -/
def openTag : String := "!"

/-- The tag of a collection. -/
def Properties.collection (p : Properties) (usual : Tag) : Tag :=
  match p.tag with
  | none => usual
  | some t => if t = openTag then usual else .ofName t

/-- The tag that the form of a text shows. No form but that of a text has surrogates. -/
def formTag (text : Text.Wording) : Tag := (text.string?.map Tag.ofForm).getD .text

/-- The tag of a text. -/
def Properties.scalar (p : Properties) (text : Text.Wording) (plain : Bool) : Tag :=
  match p.tag with
  | none => if plain then formTag text else .text
  | some t => if t = openTag then formTag text else .ofName t

/-- Adds a node. -/
def add (tag : Tag) (c : Content) : Read Nat :=
  modifyGet fun f => (f.nodes.size, { f with nodes := f.nodes.push ⟨tag, c⟩ })

/-- Adds a node and takes note of its name. No two nodes have the same one. -/
def named (p : Properties) (tag : Tag) (c : Content) : Read Nat := do
  match p.anchor with
  | none => add tag c
  | some a =>
    if Keyed.has (← get).named a then
      fail ("found duplicate anchor " ++ Text.quoted a ++ "; first occurrence")
    else
      let i ← add tag c
      modify fun f => { f with named := Keyed.put f.named a i }
      return i

/-- Gives a node its content. -/
def fill (i : Nat) (c : Content) : Read Nat :=
  modifyGet fun f => (i, { f with nodes := f.nodes.withContent i c })

/-- The node of a name. -/
def nodeNamed (name : String) : Read Nat := do
  match Keyed.get? (← get).named name with
  | none => fail ("found undefined alias " ++ Text.quoted name)
  | some i => return i

/-- A node that is left out. -/
def emptyNode : Read Nat := add .null (.scalar "")

/-! ## Nodes -/

/-- Which collections may stand at a place. -/
inductive Place
  | /-- Collections in brackets. -/
    flow
  | /-- Also block collections. -/
    block
  | /-- Also a block list at the column of its table. -/
    entry
  deriving DecidableEq, Repr

/-- Whether a node is left out before a token in a block table. -/
def endsEntry : Token → Bool
  | .key | .value | .blockEnd => true
  | _ => false

/-- Whether a node is left out before a token in a block list. -/
def endsItem : Token → Bool
  | .blockEntry | .blockEnd => true
  | _ => false

/-- Whether a node is left out before a token in a list without a start of its own. -/
def endsBareItem : Token → Bool
  | .blockEntry | .key | .value | .blockEnd => true
  | _ => false

mutual

/-- Reads a node, in at most `n` steps. -/
def node : Nat → Place → Read Nat
  | 0, _ => fail "while parsing a node"
  | n + 1, place => do
    match ← look with
    | .reference name =>
      take
      nodeNamed name
    | _ =>
      let p ← properties
      content n place p

/-- Reads what comes behind the properties of a node. -/
def content : Nat → Place → Properties → Read Nat
  | 0, _, _ => fail "while parsing a node"
  | n + 1, place, p => do
    match ← look, place with
    | .blockEntry, .entry =>
      let i ← named p (p.collection .sequence) (.sequence [])
      fill i (.sequence (← bareItems n))
    | .scalar text plain, _ =>
      take
      named p (p.scalar text plain) (.scalar text)
    | .flowSequenceStart, _ =>
      take
      let i ← named p (p.collection .sequence) (.sequence [])
      fill i (.sequence (← flowItems n true))
    | .flowMappingStart, _ =>
      take
      let i ← named p (p.collection .mapping) (.mapping [])
      fill i (.mapping (← flowEntries n true))
    | .blockSequenceStart, .block | .blockSequenceStart, .entry =>
      take
      let i ← named p (p.collection .sequence) (.sequence [])
      fill i (.sequence (← blockItems n))
    | .blockMappingStart, .block | .blockMappingStart, .entry =>
      take
      let i ← named p (p.collection .mapping) (.mapping [])
      fill i (.mapping (← blockEntries n))
    | _, _ =>
      if p.anchor.isNone && p.tag.isNone then
        fail (if place = .flow then "while parsing a flow node" else "while parsing a block node")
      else named p (p.scalar "" true) (.scalar "")

/-- Reads the items of a block list to its end. -/
def blockItems : Nat → Read (List Nat)
  | 0 => fail "while parsing a block collection"
  | n + 1 => do
    match ← look with
    | .blockEntry =>
      take
      let item ← if ← sees endsItem then emptyNode else node n .block
      return item :: (← blockItems n)
    | .blockEnd =>
      take
      return []
    | _ => fail "while parsing a block collection"

/-- Reads the items of a list without a start and an end of its own. -/
def bareItems : Nat → Read (List Nat)
  | 0 => fail "while parsing a block collection"
  | n + 1 => do
    match ← look with
    | .blockEntry =>
      take
      let item ← if ← sees endsBareItem then emptyNode else node n .block
      return item :: (← bareItems n)
    | _ => return []

/-- Reads the entries of a block table to its end. -/
def blockEntries : Nat → Read (List (Nat × Nat))
  | 0 => fail "while parsing a block mapping"
  | n + 1 => do
    match ← look with
    | .key =>
      take
      let key ← if ← sees endsEntry then emptyNode else node n .entry
      let value ← blockValue n
      return (key, value) :: (← blockEntries n)
    | .blockEnd =>
      take
      return []
    | _ => fail "while parsing a block mapping"

/-- Reads the value of an entry of a block table, if it has one. -/
def blockValue : Nat → Read Nat
  | 0 => fail "while parsing a block mapping"
  | n + 1 => do
    match ← look with
    | .value =>
      take
      if ← sees endsEntry then emptyNode else node n .entry
    | _ => emptyNode

/-- Reads the items of a list in brackets to its end. -/
def flowItems : Nat → Bool → Read (List Nat)
  | 0, _ => fail "while parsing a flow sequence"
  | n + 1, first => do
    if (← look) = .flowSequenceEnd then
      take
      return []
    else
      if !first then
        if (← look) = .flowEntry then take else fail "while parsing a flow sequence"
      match ← look with
      | .flowSequenceEnd =>
        take
        return []
      | .key =>
        take
        let key ← flowPart n (fun t => t = .value || t = .flowEntry || t = .flowSequenceEnd)
        let value ← flowValue n (fun t => t = .flowEntry || t = .flowSequenceEnd)
        let i ← add .mapping (.mapping [(key, value)])
        return i :: (← flowItems n false)
      | _ =>
        let item ← node n .flow
        return item :: (← flowItems n false)

/-- Reads the entries of a table in braces to its end. -/
def flowEntries : Nat → Bool → Read (List (Nat × Nat))
  | 0, _ => fail "while parsing a flow mapping"
  | n + 1, first => do
    if (← look) = .flowMappingEnd then
      take
      return []
    else
      if !first then
        if (← look) = .flowEntry then take else fail "while parsing a flow mapping"
      match ← look with
      | .flowMappingEnd =>
        take
        return []
      | .key =>
        take
        let key ← flowPart n (fun t => t = .value || t = .flowEntry || t = .flowMappingEnd)
        let value ← flowValue n (fun t => t = .flowEntry || t = .flowMappingEnd)
        return (key, value) :: (← flowEntries n false)
      | _ =>
        let key ← node n .flow
        let value ← emptyNode
        return (key, value) :: (← flowEntries n false)

/-- Reads a node in brackets, unless it is left out before a token of a class. -/
def flowPart : Nat → (Token → Bool) → Read Nat
  | 0, _ => fail "while parsing a flow node"
  | n + 1, isEnd => do
    if ← sees isEnd then emptyNode else node n .flow

/-- Reads the value of an entry in brackets, if it has one. -/
def flowValue : Nat → (Token → Bool) → Read Nat
  | 0, _ => fail "while parsing a flow node"
  | n + 1, isEnd => do
    match ← look with
    | .value =>
      take
      flowPart n isEnd
    | _ => emptyNode

end

/-! ## Documents -/

/-- What handles stand for unless a directive says otherwise. -/
def usualHandles : Keyed String String := [("!", "!"), ("!!", Tag.stem)]

/-- Whether the next token belongs to a document that starts with a mark. -/
def startsMarked : Token → Bool
  | .directive _ | .documentStart | .streamEnd => true
  | _ => false

/-- Whether a document without a node ends before a token. -/
def endsDocument : Token → Bool
  | .directive _ | .documentStart | .documentEnd | .streamEnd => true
  | _ => false

/-- Reads the directives in front of a document, at most `n` of them. `versioned` tells that there
was a version among those before. -/
def directives : Nat → Bool → Read Unit
  | 0, _ => return
  | n + 1, versioned => do
    match ← look with
    | .directive (.version major _) =>
      take
      if versioned then fail "found duplicate YAML directive"
      else if major ≠ 1 then
        fail "found incompatible YAML document (version 1.* is required)"
      else directives n true
    | .directive (.handle name stands) =>
      take
      if Keyed.has (← get).handles name then
        fail ("duplicate tag handle " ++ Text.quoted name)
      else
        modify fun f => { f with handles := Keyed.put f.handles name stands }
        directives n versioned
    | .directive .other =>
      take
      directives n versioned
    | _ => return

/-- The handles that a document can use: those of its directives and the usual ones. -/
def withUsual (told : Keyed String String) : Keyed String String :=
  usualHandles.foldl (fun h e => if Keyed.has h e.1 then h else Keyed.put h e.1 e.2) told

/-- Reads ends of documents, at most `n` of them. -/
def documentEnds : Nat → Read Unit
  | 0 => return
  | n + 1 => do
    if (← look) = .documentEnd then
      take
      documentEnds n

/-- Reads the directives and the mark in front of a document. -/
def documentHead (n : Nat) : Read Unit := do
  modify fun f => { f with handles := [] }
  directives n false
  modify fun f => { f with handles := withUsual f.handles }
  let t ← look
  if t = .documentStart then take
  else fail ("expected '<document start>', but found " ++ Text.quoted t.label)

/-- Reads a document that starts with a mark. -/
def markedDocument (n : Nat) : Read Nat := do
  documentHead n
  if ← sees endsDocument then emptyNode else node n .block

/-- Reads a document that starts without a mark. -/
def bareDocument (n : Nat) : Read Nat := do
  modify fun f => { f with handles := usualHandles }
  node n .block

/-- Reads a text with one document or none. -/
def stream (n : Nat) : Read (Option Nat) := do
  if (← look) = .streamEnd then return none
  else
    let root ← if ← sees startsMarked then markedDocument n else bareDocument n
    documentEnds n
    if (← look) = .streamEnd then return some root
    else
      documentHead n
      fail "expected a single document in the stream"

end Read

/-- The nodes that some tokens make, and the number of the document among them, if there is one. No
token is read more than a few times. -/
def Graph.ofTokens? (t : Tokens) : Except Fault (Option (Graph × Nat)) :=
  ((Read.stream (4 * t.list.length + 8)).run ⟨t.list, t.fault, [], [], #[]⟩).map
    fun (root, f) => root.map fun i => (f.nodes, i)

end GpuMetrics.Yaml
