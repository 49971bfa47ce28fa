import ExtractionSchema.Yaml.Fault
import ExtractionSchema.Yaml.Tag

/-!
# Graphs of YAML nodes

Nodes are scalars, sequences and mappings, each with a tag. An alias makes a node part of several
others, even of itself, so nodes refer to their parts by number, and a `Graph` holds the nodes.

A mapping may take over the entries of others: `Graph.takeOver` puts them before its own.
-/

namespace ExtractionSchema.Yaml

/-- The number of a node in its graph. -/
abbrev NodeId := Nat

/-- A node of a document. -/
inductive Node where
  | scalar (tag : Tag) (text : String)
  | sequence (tag : Tag) (items : List NodeId)
  | mapping (tag : Tag) (entries : List (NodeId × NodeId))

namespace Node

instance : Inhabited Node := ⟨.scalar .other ""⟩

/-- The node for what is left out. -/
def missing : Node := .scalar (Tag.ofPlain "") ""

/-- The tag of a node. -/
def tag : Node → Tag
  | .scalar tag _ | .sequence tag _ | .mapping tag _ => tag

/-- The entries of a mapping; other nodes have none. -/
def entries : Node → List (NodeId × NodeId)
  | .mapping _ entries => entries
  | .scalar _ _ | .sequence _ _ => []

/-- Gives a node another tag. -/
def withTag (tag : Tag) : Node → Node
  | .scalar _ text => .scalar tag text
  | .sequence _ items => .sequence tag items
  | .mapping _ entries => .mapping tag entries

/-- Gives a mapping other entries. -/
def withEntries (entries : List (NodeId × NodeId)) : Node → Node
  | .mapping tag _ => .mapping tag entries
  | node => node

end Node

/-- Nodes by their numbers. -/
structure Graph where
  nodes : Array Node := #[]

namespace Graph

/-- Number of nodes. -/
def size (g : Graph) : Nat := g.nodes.size

/-- The node of a number. -/
def get (g : Graph) (id : NodeId) : Node := g.nodes.getD id default

/-- Puts a node in the place of another one. -/
def set (id : NodeId) (node : Node) (g : Graph) : Graph := ⟨g.nodes.setIfInBounds id node⟩

/-- Adds a node; it gets the next number. -/
def add (node : Node) (g : Graph) : NodeId × Graph := (g.size, ⟨g.nodes.push node⟩)

/-- The tag of a node. -/
def tag (g : Graph) (id : NodeId) : Tag := (g.get id).tag

/-- The entries of a mapping. -/
def entries (g : Graph) (id : NodeId) : List (NodeId × NodeId) := (g.get id).entries

/-- Whether a node is a mapping. -/
def isMapping (g : Graph) (id : NodeId) : Bool :=
  match g.get id with
  | .mapping _ _ => true
  | .scalar _ _ | .sequence _ _ => false

/-- The text of a node: a scalar's own, and that of a mapping's value under the mark `=`. The second
argument bounds the number of mappings within each other. -/
def text (g : Graph) : (steps : Nat) → NodeId → Except Fault String
  | 0, _ => .error .invalid
  | steps + 1, id =>
    match g.get id with
    | .scalar _ text => .ok text
    | .sequence _ _ => .error .invalid
    | .mapping _ entries =>
      match entries.find? fun (k, _) => g.tag k = .value with
      | some (_, v) => text g steps v
      | none => .error .invalid

/-! ## Entries taken over -/

/-- Number of entries of all mappings. -/
def entryCount (g : Graph) : Nat := g.nodes.foldl (fun n node => n + node.entries.length) 0

/-- Makes texts of the keys that are the mark `=`. -/
def markTexts (entries : List (NodeId × NodeId)) (g : Graph) : Graph :=
  entries.foldl (fun g (k, _) =>
    if g.tag k = .value then g.set k ((g.get k).withTag .text) else g) g

/-- Removes the entries of a mapping that name what it takes over, and puts the entries taken over
before the others. The first `passed` entries have been looked at, and `taken` holds what they took
over. Each step removes one entry, so `steps` need only exceed the number of entries. -/
def takeOverFrom : (steps : Nat) → NodeId → (passed : Nat) → (taken : List (NodeId × NodeId)) →
    Graph → Except Fault Graph
  | 0, _, _, _, _ => .error .invalid
  | steps + 1, id, passed, taken, g =>
    let entries := g.entries id
    let own := (entries.drop passed).takeWhile fun (k, _) => g.tag k ≠ .merge
    let g := g.markTexts own
    let passed := passed + own.length
    match entries.drop passed with
    | [] =>
      .ok (if taken.isEmpty then g else g.set id ((g.get id).withEntries (taken ++ entries)))
    | (_, v) :: rest => do
      let g := g.set id ((g.get id).withEntries (entries.take passed ++ rest))
      match g.get v with
      | .scalar _ _ => throw .invalid
      | .mapping _ _ =>
        let g ← takeOverFrom steps v 0 [] g
        takeOverFrom steps id passed (taken ++ g.entries v) g
      | .sequence _ items =>
        let (g, lists) ← items.foldlM (fun (g, lists) item => do
          if !g.isMapping item then throw .invalid
          let g ← takeOverFrom steps item 0 [] g
          return (g, g.entries item :: lists)) (g, [])
        takeOverFrom steps id passed (taken ++ lists.flatten) g

/-- Gives a mapping the entries that it takes over. -/
def takeOver (id : NodeId) (g : Graph) : Except Fault Graph :=
  takeOverFrom (g.entryCount + 1) id 0 [] g

end Graph

end ExtractionSchema.Yaml
