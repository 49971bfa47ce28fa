import ExtractionSchema.Value.Equality
import ExtractionSchema.Yaml.Node
import ExtractionSchema.Yaml.ScalarValue

/-!
# Values of YAML documents

A document without content is `null`. A mapping may take over the entries of others: those that it
has itself win, and stand after the ones taken over that it does not have. Of entries with equal
keys the last value counts, at the place of the first.

A scalar is made into its value as soon as it is met, and a collection stays empty until all
collections met before it are filled. Of several faults the one met first is reported. A collection
within itself is no fault: where it comes again, a mark stands for it.

* `read` reads the value of a text.
-/

namespace ExtractionSchema.Yaml

/-- What is made of a node: a value, or a collection that refers to nodes. -/
inductive Part where
  | value (v : Value)
  | list (items : List NodeId)
  | pairs (pairs : List (NodeId × NodeId))
  | object (entries : List (Key × NodeId))
  | set (members : List Key)

/-- Nodes, what has been made of them, and the collections that are still to be filled: those that
wait, and those that wait behind them, the last one first. -/
structure Builder where
  graph : Graph
  parts : Array (Option Part)
  waiting : List NodeId := []
  behind : List NodeId := []

namespace Builder

/-- What has been made of a node. -/
def part (b : Builder) (id : NodeId) : Option Part := b.parts.getD id none

/-- Sets what is made of a node. -/
def setPart (id : NodeId) (part : Part) (b : Builder) : Builder :=
  { b with parts := b.parts.setIfInBounds id (some part) }

/-- Makes an empty collection of a node, to be filled later. -/
def start (id : NodeId) (empty : Part) (b : Builder) : Builder :=
  { b.setPart id empty with behind := id :: b.behind }

/-- The value of a node whose tag is that of a scalar. -/
def scalar (id : NodeId) (tag : Tag) (b : Builder) : Except Fault Value := do
  let text ← b.graph.text (b.graph.size + 1) id
  if tag = .moment && b.graph.isMapping id then throw (.noValue .momentOfMapping)
  scalarValue tag text

/-- Makes a value or an empty collection of a node, unless that has been done. -/
def make (id : NodeId) (b : Builder) : Except Fault Builder :=
  if (b.part id).isSome then .ok b
  else
    match b.graph.tag id with
    | .sequence => .ok (b.start id (.list []))
    | .pairs => .ok (b.start id (.pairs []))
    | .mapping => .ok (b.start id (.object []))
    | .set => .ok (b.start id (.set []))
    | .merge | .value | .other => .error .invalid
    | tag => do return b.setPart id (.value (← b.scalar id tag))

/-- The key that has been made of a node; a collection is none. -/
def key (id : NodeId) (b : Builder) : Except Fault Key :=
  match b.part id with
  | some (.value v) =>
    match v.key? with
    | some key => .ok key
    | none => .error .invalid
  | _ => .error .invalid

/-- Sets what a key has, at the place of a key that is the same if there is one. -/
def putSame {α : Type} (key : Key) (a : α) : List (Key × α) → List (Key × α)
  | [] => [(key, a)]
  | (k, b) :: rest => if k.same key then (k, a) :: rest else (k, b) :: putSame key a rest

/-- Makes the keys and values of entries. -/
def makeEntries (done : List (Key × NodeId)) :
    List (NodeId × NodeId) → Builder → Except Fault (List (Key × NodeId) × Builder)
  | [], b => .ok (done, b)
  | (k, v) :: rest, b => do
    let b ← b.make k
    let key ← b.key k
    let b ← b.make v
    makeEntries (putSame key v done) rest b

/-- The entries of a mapping, with those that it takes over. -/
def fillEntries (id : NodeId) (b : Builder) : Except Fault (List (Key × NodeId) × Builder) := do
  if !b.graph.isMapping id then throw .invalid
  let graph ← b.graph.takeOver id
  makeEntries [] (graph.entries id) { b with graph }

/-- Makes the pairs that mappings of one entry write. -/
def makePairs :
    List NodeId → Builder → Except Fault (List (NodeId × NodeId) × Builder)
  | [], b => .ok ([], b)
  | item :: items, b =>
    match b.graph.get item with
    | .mapping _ [(k, v)] => do
      let b ← b.make k
      let b ← b.make v
      let (pairs, b) ← makePairs items b
      return ((k, v) :: pairs, b)
    | _ => .error .invalid

/-- The items of a sequence. -/
def items (id : NodeId) (b : Builder) : Except Fault (List NodeId) :=
  match b.graph.get id with
  | .sequence _ items => .ok items
  | .mapping _ _ | .scalar _ _ => .error .invalid

/-- Fills the collection that was made of a node. -/
def fill (id : NodeId) (b : Builder) : Except Fault Builder := do
  match b.part id with
  | some (.list _) =>
    let items ← b.items id
    let b ← items.foldlM (fun b item => b.make item) b
    return b.setPart id (.list items)
  | some (.pairs _) =>
    let (pairs, b) ← makePairs (← b.items id) b
    return b.setPart id (.pairs pairs)
  | some (.object _) =>
    let (entries, b) ← b.fillEntries id
    return b.setPart id (.object entries)
  | some (.set _) =>
    let (entries, b) ← b.fillEntries id
    return b.setPart id (.set (entries.map (·.1)))
  | _ => return b

/-- Fills collections until all are filled. Each node waits once and moves up at most once, so `steps`
need only exceed twice the number of nodes. -/
def fillAll : (steps : Nat) → Builder → Except Fault Builder
  | 0, b => .ok b
  | steps + 1, b =>
    match b.waiting, b.behind with
    | [], [] => .ok b
    | [], behind => fillAll steps { b with waiting := behind.reverse, behind := [] }
    | id :: waiting, _ => do
      let b ← { b with waiting }.fill id
      fillAll steps b

/-- The value of a node within the given nodes. No node stands within itself, so `steps` need only
exceed the number of nodes. -/
def value (b : Builder) : (steps : Nat) → (around : List NodeId) → NodeId → Value
  | 0, _, _ => .null
  | steps + 1, around, id =>
    let within := value b steps (id :: around)
    match b.part id, around.contains id with
    | some (.value v), _ => v
    | some (.set members), _ => .set members
    | some (.list _), true | some (.pairs _), true => .enclosing true
    | some (.object _), true => .enclosing false
    | some (.list items), false => .list (items.map within)
    | some (.pairs pairs), false => .list (pairs.map fun (k, v) => .pair (within k) (within v))
    | some (.object entries), false => .object (entries.map fun (k, v) => (k, within v))
    | none, _ => .null

end Builder

/-- The value of a node of a graph. -/
def Graph.value (root : NodeId) (g : Graph) : Except Fault Value := do
  let b : Builder := { graph := g, parts := Array.replicate g.size none }
  let b ← (← b.make root).fillAll (2 * g.size + 1)
  return b.value (g.size + 1) [] root

/-- The value of a YAML text. -/
def read (s : String) : Except Fault Value := do
  match ← Parser.document (tokens s) with
  | none => return .null
  | some (root, graph) => graph.value root

end ExtractionSchema.Yaml
