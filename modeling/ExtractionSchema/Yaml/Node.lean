import ExtractionSchema.Yaml.Graph
import ExtractionSchema.Yaml.Lexer

/-!
# Nodes of YAML texts

Reading the graph of nodes that tokens write. An alias stands for the node that its anchor names,
which may be a node around it. A text holds one document at most.

A token is looked at only when it decides what comes next, so of a fault among the tokens and a
token out of place the one that comes first is reported.

The readers of nodes call each other and take a bound on the depth of their calls, which the
number of tokens gives.
-/

namespace ExtractionSchema.Yaml

/-- What is left of the tokens, the nodes read, those that anchors name, and the tags that handles
stand for. -/
structure Parser where
  rest : List Token
  graph : Graph := {}
  anchors : List (String × NodeId) := []
  handles : List (String × String) := []

namespace Parser

/-- The token that comes next. -/
def peek (p : Parser) : Except Fault Token :=
  match p.rest with
  | .fault fault :: _ => .error fault
  | token :: _ => .ok token
  | [] => .ok .streamEnd

/-- The place after the next token. -/
def next (p : Parser) : Parser := { p with rest := p.rest.tail }

/-- Adds a node and gives it its name, if it has one. A name stands for one node only. -/
def add (name : Option String) (node : Node) (p : Parser) : Except Fault (NodeId × Parser) :=
  let (id, graph) := p.graph.add node
  match name with
  | none => .ok (id, { p with graph })
  | some name =>
    if (p.anchors.lookup name).isSome then .error .invalid
    else .ok (id, { p with graph, anchors := (name, id) :: p.anchors })

/-- Adds the node for what is left out. -/
def addMissing (p : Parser) : NodeId × Parser :=
  let (id, graph) := p.graph.add Node.missing
  (id, { p with graph })

/-- Puts a node in the place of another one. -/
def set (id : NodeId) (node : Node) (p : Parser) : Parser :=
  { p with graph := p.graph.set id node }

/-- The tag that a written one means; `none` if the content decides. -/
def resolve (written : Option WrittenTag) (p : Parser) : Except Fault (Option String) :=
  match written with
  | none => .ok none
  | some (.verbatim tag) => .ok (some tag)
  | some (.handled handle suffix) =>
    match p.handles.lookup handle with
    | some start => .ok (some (start ++ suffix))
    | none => .error .invalid

/-- The anchor and the tag before a node, in either order. -/
def properties (p : Parser) : Except Fault (Option String × Option WrittenTag × Parser) := do
  match ← p.peek with
  | .anchor name =>
    let p := p.next
    match ← p.peek with
    | .tag written => return (some name, some written, p.next)
    | _ => return (some name, none, p)
  | .tag written =>
    let p := p.next
    match ← p.peek with
    | .anchor name => return (some name, some written, p.next)
    | _ => return (none, some written, p)
  | _ => return (none, none, p)

/-- What may stand at a node's place. -/
inductive Place where
  /-- Inside brackets: no block collection. -/
  | flow
  | block
  /-- In a block mapping: also a sequence that is not indented. -/
  | entry
deriving DecidableEq

/-- Whether a tag leaves it to the content what a node is. -/
def isOpen (tag : Option String) : Bool := tag = none || tag = some "!"

/-- The node of a scalar. -/
def scalarNode (tag : Option String) (text : String) (plain : Bool) : Node :=
  if (plain && tag = none) || tag = some "!" then .scalar (Tag.ofPlain text) text
  else .scalar ((tag.map Tag.ofText).getD .text) text

/-- The node of a scalar that is left out after an anchor or a tag. -/
def emptyNode (tag : Option String) : Node :=
  if isOpen tag then Node.missing else .scalar ((tag.map Tag.ofText).getD .text) ""

/-- The tag of a collection. -/
def collectionTag (tag : Option String) (default : Tag) : Tag :=
  if isOpen tag then default else (tag.map Tag.ofText).getD default

/-- Reads a sequence: its node is added first, so that its items may refer to it. -/
def sequence (name tag : Option String)
    (items : Parser → Except Fault (List NodeId × Parser)) (p : Parser) :
    Except Fault (NodeId × Parser) := do
  let tag := collectionTag tag .sequence
  let (id, p) ← p.add name (.sequence tag [])
  let (found, p) ← items p
  return (id, p.set id (.sequence tag found))

/-- Reads a mapping: its node is added first, so that its entries may refer to it. -/
def mapping (name tag : Option String)
    (entries : Parser → Except Fault (List (NodeId × NodeId) × Parser)) (p : Parser) :
    Except Fault (NodeId × Parser) := do
  let tag := collectionTag tag .mapping
  let (id, p) ← p.add name (.mapping tag [])
  let (found, p) ← entries p
  return (id, p.set id (.mapping tag found))

mutual

/-- Reads a node. -/
def node (place : Place) : (steps : Nat) → Parser → Except Fault (NodeId × Parser)
  | 0, _ => .error .invalid
  | steps + 1, p => do
    match ← p.peek with
    | .alias name =>
      match p.anchors.lookup name with
      | some id => return (id, p.next)
      | none => throw .invalid
    | _ =>
      let (name, written, p) ← p.properties
      let tag ← p.resolve written
      content place steps name tag (← p.peek) p

/-- Reads what follows the anchor and the tag of a node, from a token on; with an anchor or a tag it
may be missing. -/
def content (place : Place) (steps : Nat) (name tag : Option String) (token : Token)
    (p : Parser) : Except Fault (NodeId × Parser) :=
  match steps, token, place with
  | 0, _, _ => .error .invalid
  | steps + 1, .blockEntry, .entry => sequence name tag (entries false steps) p
  | _ + 1, .scalar text plain, _ => p.next.add name (scalarNode tag text plain)
  | steps + 1, .flowSequenceStart, _ =>
    sequence name tag (fun p => flowItems true steps p.next) p
  | steps + 1, .flowMappingStart, _ =>
    mapping name tag (fun p => flowEntries true steps p.next) p
  | steps + 1, .blockSequenceStart, .block | steps + 1, .blockSequenceStart, .entry =>
    sequence name tag (fun p => entries true steps p.next) p
  | steps + 1, .blockMappingStart, .block | steps + 1, .blockMappingStart, .entry =>
    mapping name tag (fun p => blockMapping steps p.next) p
  | _ + 1, _, _ =>
    if name.isSome || tag.isSome then p.add name (emptyNode tag) else .error .invalid

/-- Reads a node unless one of some tokens comes next: then it is missing. -/
def nodeUnless (place : Place) (stops : List Token) (steps : Nat) (p : Parser) :
    Except Fault (NodeId × Parser) :=
  match steps with
  | 0 => .error .invalid
  | steps + 1 => do
    if stops.contains (← p.peek) then return p.addMissing
    node place steps p

/-- Reads the entries of a block sequence, and its end if it is indented. -/
def entries (indented : Bool) : (steps : Nat) → Parser → Except Fault (List NodeId × Parser)
  | 0, _ => .error .invalid
  | steps + 1, p => do
    match ← p.peek with
    | .blockEntry =>
      let stops :=
        if indented then [.blockEntry, .blockEnd] else [.blockEntry, .key, .value, .blockEnd]
      let (item, p) ← nodeUnless .block stops steps p.next
      let (items, p) ← entries indented steps p
      return (item :: items, p)
    | .blockEnd => return ([], if indented then p.next else p)
    | _ => if indented then throw .invalid else return ([], p)

/-- Reads the value of an entry if a colon comes next. -/
def valueAfterColon (place : Place) (stops : List Token) (steps : Nat) (p : Parser) :
    Except Fault (NodeId × Parser) :=
  match steps with
  | 0 => .error .invalid
  | steps + 1 => do
    match ← p.peek with
    | .value => nodeUnless place stops steps p.next
    | _ => return p.addMissing

/-- Reads the entries of a block mapping and its end. -/
def blockMapping : (steps : Nat) → Parser → Except Fault (List (NodeId × NodeId) × Parser)
  | 0, _ => .error .invalid
  | steps + 1, p => do
    let stops := [.key, .value, .blockEnd]
    match ← p.peek with
    | .key =>
      let (k, p) ← nodeUnless .entry stops steps p.next
      let (v, p) ← valueAfterColon .entry stops steps p
      let (es, p) ← blockMapping steps p
      return ((k, v) :: es, p)
    | .blockEnd => return ([], p.next)
    | _ => throw .invalid

/-- Reads the items of a sequence in brackets and its end. An item with a key is a mapping of one
entry. -/
def flowItems (first : Bool) : (steps : Nat) → Parser → Except Fault (List NodeId × Parser)
  | 0, _ => .error .invalid
  | steps + 1, p => do
    let token ← p.peek
    if token = .flowSequenceEnd then return ([], p.next)
    if !first && token ≠ .flowEntry then throw .invalid
    let p := if first then p else p.next
    match ← p.peek with
    | .flowSequenceEnd => return ([], p.next)
    | .key =>
      let (item, p) ← mapping none none (fun p => do
        let (k, p) ← nodeUnless .flow [.value, .flowEntry, .flowSequenceEnd] steps p.next
        let (v, p) ← valueAfterColon .flow [.flowEntry, .flowSequenceEnd] steps p
        return ([(k, v)], p)) p
      let (items, p) ← flowItems false steps p
      return (item :: items, p)
    | _ =>
      let (item, p) ← node .flow steps p
      let (items, p) ← flowItems false steps p
      return (item :: items, p)

/-- Reads the entries of a mapping in brackets and its end. -/
def flowEntries (first : Bool) :
    (steps : Nat) → Parser → Except Fault (List (NodeId × NodeId) × Parser)
  | 0, _ => .error .invalid
  | steps + 1, p => do
    let token ← p.peek
    if token = .flowMappingEnd then return ([], p.next)
    if !first && token ≠ .flowEntry then throw .invalid
    let p := if first then p else p.next
    match ← p.peek with
    | .flowMappingEnd => return ([], p.next)
    | .key =>
      let (k, p) ← nodeUnless .flow [.value, .flowEntry, .flowMappingEnd] steps p.next
      let (v, p) ← valueAfterColon .flow [.flowEntry, .flowMappingEnd] steps p
      let (es, p) ← flowEntries false steps p
      return ((k, v) :: es, p)
    | _ =>
      let (k, p) ← node .flow steps p
      let _ ← p.peek
      let (v, p) := p.addMissing
      let (es, p) ← flowEntries false steps p
      return ((k, v) :: es, p)

end

/-! ## Documents -/

/-- The tags that handles stand for without a directive. -/
def standardHandles : List (String × String) := [("!", "!"), ("!!", "tag:yaml.org,2002:")]

/-- Reads the directives before a document: one version at most, and it must be of the first
generation; one tag at most for each handle. -/
def directives :
    List Token → (versioned : Bool) → (handles : List (String × String)) →
      Except Fault (List Token × List (String × String))
  | .versionDirective major :: rest, versioned, handles =>
    if versioned || major ≠ 1 then .error .invalid else directives rest true handles
  | .tagDirective handle target :: rest, versioned, handles =>
    if (handles.lookup handle).isSome then .error .invalid
    else directives rest versioned ((handle, target) :: handles)
  | .otherDirective :: rest, versioned, handles => directives rest versioned handles
  | .fault fault :: _, _, _ => .error fault
  | rest, _, handles => .ok (rest, handles ++ standardHandles)

/-- The place after marks that end a document. -/
def skipEnds (p : Parser) : Parser := { p with rest := p.rest.dropWhile (· = .documentEnd) }

/-- Whether a document without content ends here. -/
def endsDocument : Token → Bool
  | .versionDirective _ | .tagDirective _ _ | .otherDirective => true
  | .documentStart | .documentEnd | .streamEnd => true
  | _ => false

/-- Reads the root of a document. -/
def root (handles : List (String × String)) (rest : List Token) :
    Except Fault (NodeId × Parser) :=
  node .block (4 * rest.length + 4) { rest, handles }

/-- Reads the start of a document that is marked, and gives what follows with the handles. -/
def markedStart (tokens : List Token) : Except Fault (List Token × List (String × String)) := do
  let (rest, handles) ← directives tokens false []
  match rest with
  | .documentStart :: rest => return (rest, handles)
  | _ => throw .invalid

/-- Reads a document that is marked. -/
def markedDocument (tokens : List Token) : Except Fault (NodeId × Parser) := do
  let (rest, handles) ← markedStart tokens
  if endsDocument (← { rest : Parser }.peek) then return { rest : Parser }.addMissing
  root handles rest

/-- Reads the document of a text, if there is one: its root and its nodes. -/
def document (tokens : List Token) : Except Fault (Option (NodeId × Graph)) := do
  let token ← { rest := tokens : Parser }.peek
  if token = .streamEnd then return none
  let (id, p) ←
    if endsDocument token && token ≠ .documentEnd then markedDocument tokens
    else root standardHandles tokens
  let p := p.skipEnds
  if (← p.peek) = .streamEnd then return some (id, p.graph)
  let _ ← markedStart p.rest
  throw .invalid

end Parser

end ExtractionSchema.Yaml
