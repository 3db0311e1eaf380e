import RuleLabels.Yaml.Layout

/-!
# Nodes of YAML documents

The nodes that the tokens of a document make: scalars, sequences and mappings with their tags. Nodes have
numbers, by which collections hold their members, since an alias stands for a node that may be held in
several places, and even by itself.
-/

namespace RuleLabels.Yaml

/-- A part of a document, whose own parts are given by their numbers. A scalar is plain where its form
tells what it means. -/
inductive Node where
  | scalar (tag : Option String) (plain : Bool) (s : String)
  | sequence (tag : Option String) (items : List Nat)
  | mapping (tag : Option String) (entries : List (Nat × Nat))
  deriving Inhabited

/-- The nodes of a document by their numbers, the number of its root, and whether some collection holds
itself. -/
structure Graph where
  nodes : Array Node
  root : Nat
  looped : Bool

namespace Node

/-- The scalar that stands where nothing is written. -/
def nothing : Node := .scalar none true ""

/-! ## The state of reading -/

/-- The tokens left and the fault behind them, the nodes so far, the numbers of those with anchors and of
the collections that are not complete, the handles of tags, and whether an alias stood for one of those
collections. -/
structure Reader where
  tokens : List Token
  fault : Option Error
  nodes : Array Node
  anchors : List (String × Nat)
  unfinished : List Nat
  handles : List (String × String)
  looped : Bool

/-- A step of reading. -/
abbrev Reading := StateT Reader (Except Error)

/-- Refuses the document. -/
def refuse {α : Type} : Reading α := throw .malformed

/-- The next token. Behind the last one stands the fault that the text may have. -/
def peek? : Reading (Option Token) := do
  let r ← get
  match r.tokens, r.fault with
  | [], some e => throw e
  | ts, _ => return ts.head?

/-- Passes over the next token. -/
def drop : Reading Unit := modify fun r => { r with tokens := r.tokens.tail }

/-- The next token is one of some. -/
def sees (ts : List Token) : Reading Bool := do
  match ← peek? with
  | some t => return ts.contains t
  | none => return false

/-- Passes over a token that has to come next. -/
def expect (t : Token) : Reading Unit := do
  if ← sees [t] then drop else refuse

/-- Passes over a token if it comes next. -/
def accept (t : Token) : Reading Bool := do
  let found ← sees [t]
  if found then drop
  return found

/-! ## Properties of nodes -/

/-- The name of an anchor, if one comes next. -/
def anchor? : Reading (Option String) := do
  match ← peek? with
  | some (.anchor name) => do
    drop
    return some name
  | _ => return none

/-- The full tag, if one comes next. -/
def tag? : Reading (Option String) := do
  match ← peek? with
  | some (.tag none suffix) => do
    drop
    return some suffix
  | some (.tag (some handle) suffix) => do
    drop
    match (← get).handles.lookup handle with
    | some start => return some (start ++ suffix)
    | none => refuse
  | _ => return none

/-- The anchor and the tag of a node, in either order. -/
def properties : Reading (Option String × Option String) := do
  match ← anchor? with
  | some name => return (some name, ← tag?)
  | none =>
    let tag ← tag?
    let anchor ← if tag.isSome then anchor? else pure none
    return (anchor, tag)

/-- Adds a node, whose anchor must be new, and gives its number. -/
def add (anchor : Option String) (n : Node) : Reading Nat := do
  let r ← get
  if anchor.any fun name => (r.anchors.lookup name).isSome then refuse
  let number := r.nodes.size
  let anchors := match anchor with
    | some name => (name, number) :: r.anchors
    | none => r.anchors
  set { r with nodes := r.nodes.push n, anchors }
  return number

/-- Adds a collection: its members may stand for it by its anchor before they are complete. -/
def collection {α : Type} (anchor : Option String) (members : Reading α) (make : α → Node) :
    Reading Nat := do
  let number ← add anchor nothing
  modify fun r => { r with unfinished := number :: r.unfinished }
  let parts ← members
  modify fun r => { r with
    nodes := r.nodes.setIfInBounds number (make parts)
    unfinished := r.unfinished.tail }
  return number

/-- The node that an alias means. -/
def aliased (name : String) : Reading Nat := do
  let r ← get
  match r.anchors.lookup name with
  | none => refuse
  | some number =>
    set { r with looped := r.looped || r.unfinished.contains number }
    return number

/-- A tag that leaves it to the form of a node what it is counts as none. -/
def ownTag (tag : Option String) : Option String := tag.filter (· ≠ "!")

/-- The scalar with a tag. -/
def scalarNode (tag : Option String) (plain : Bool) (s : String) : Node :=
  .scalar (ownTag tag) ((plain && tag.isNone) || tag = some "!") s

/-! ## Nodes -/

/-- Where a node stands: in a block collection, as the value in a block mapping, where a sequence need
not be indented, or in a flow collection. -/
inductive Context where
  | block
  | blockValue
  | flow
  deriving DecidableEq

/-- The most collections inside each other. -/
def maxDepth : Nat := 480

mutual

/-- Reads a node inside which `room` more collections may hold each other. -/
def readNode : Nat → Nat → Context → Reading Nat
  | 0, _, _ => refuse
  | _ + 1, 0, _ => throw (.misfit .tooDeep)
  | fuel + 1, room + 1, context => do
    match ← peek? with
    | some (.alias name) => do
      drop
      aliased name
    | _ => do
      let (anchor, tag) ← properties
      readContent fuel room context anchor tag

/-- Reads what follows the properties of a node. -/
def readContent : Nat → Nat → Context → Option String → Option String → Reading Nat
  | 0, _, _, _, _ => refuse
  | fuel + 1, room, context, anchor, tag => do
    let sequence (items : Reading (List Nat)) := collection anchor items (.sequence (ownTag tag))
    let mapping (entries : Reading (List (Nat × Nat))) :=
      collection anchor entries (.mapping (ownTag tag))
    match ← peek? with
    | some .entry =>
      if context = .blockValue then sequence (readIndentless fuel room)
      else if anchor.isSome || tag.isSome then add anchor (scalarNode tag tag.isNone "")
      else refuse
    | some (.scalar plain s) => do
      drop
      add anchor (scalarNode tag plain s)
    | some .flowSequenceStart => do
      drop
      sequence (readFlowItems fuel room true)
    | some .flowMappingStart => do
      drop
      mapping (readFlowEntries fuel room true)
    | t => do
      if t = some .blockSequenceStart ∧ context ≠ .flow then do
        drop
        sequence (readBlockItems fuel room)
      else if t = some .blockMappingStart ∧ context ≠ .flow then do
        drop
        mapping (readBlockEntries fuel room)
      else if anchor.isSome || tag.isSome then add anchor (scalarNode tag tag.isNone "")
      else refuse

/-- Reads a node, or nothing before one of some tokens. -/
def readUnless : Nat → Nat → List Token → Context → Reading Nat
  | 0, _, _, _ => refuse
  | fuel + 1, room, ends, context => do
    if ← sees ends then add none nothing else readNode fuel room context

/-- Reads the members of a block sequence and its end. -/
def readBlockItems : Nat → Nat → Reading (List Nat)
  | 0, _ => refuse
  | fuel + 1, room => do
    if ← accept .entry then
      let item ← readUnless fuel room [.entry, .blockEnd] .block
      return item :: (← readBlockItems fuel room)
    else
      expect .blockEnd
      return []

/-- Reads the members of a sequence that is not indented. -/
def readIndentless : Nat → Nat → Reading (List Nat)
  | 0, _ => refuse
  | fuel + 1, room => do
    if ← accept .entry then
      let item ← readUnless fuel room [.entry, .key, .value, .blockEnd] .block
      return item :: (← readIndentless fuel room)
    else return []

/-- Reads the entries of a block mapping and its end. -/
def readBlockEntries : Nat → Nat → Reading (List (Nat × Nat))
  | 0, _ => refuse
  | fuel + 1, room => do
    if ← accept .key then
      let key ← readUnless fuel room [.key, .value, .blockEnd] .blockValue
      let value ← readBlockValue fuel room
      return (key, value) :: (← readBlockEntries fuel room)
    else
      expect .blockEnd
      return []

/-- Reads the value of an entry of a block mapping. -/
def readBlockValue : Nat → Nat → Reading Nat
  | 0, _ => refuse
  | fuel + 1, room => do
    if ← accept .value then readUnless fuel room [.key, .value, .blockEnd] .blockValue
    else add none nothing

/-- Reads the members of a flow sequence and its end. -/
def readFlowItems : Nat → Nat → Bool → Reading (List Nat)
  | 0, _, _ => refuse
  | fuel + 1, room, first => do
    if ← accept .flowSequenceEnd then return []
    if !first then expect .flowEntry
    if ← sees [.key] then
      let item ← readPair fuel room
      return item :: (← readFlowItems fuel room false)
    else if ← accept .flowSequenceEnd then return []
    else
      let item ← readNode fuel room .flow
      return item :: (← readFlowItems fuel room false)

/-- Reads a mapping of one entry inside a flow sequence. -/
def readPair : Nat → Nat → Reading Nat
  | 0, _ => refuse
  | _ + 1, 0 => throw (.misfit .tooDeep)
  | fuel + 1, room + 1 => do
    drop
    collection none (do
      let key ← readUnless fuel room [.value, .flowEntry, .flowSequenceEnd] .flow
      let value ← readFlowValue fuel room .flowSequenceEnd
      return [(key, value)]) (.mapping none)

/-- Reads the entries of a flow mapping and its end. -/
def readFlowEntries : Nat → Nat → Bool → Reading (List (Nat × Nat))
  | 0, _, _ => refuse
  | fuel + 1, room, first => do
    if ← accept .flowMappingEnd then return []
    if !first then expect .flowEntry
    if ← accept .key then
      let key ← readUnless fuel room [.value, .flowEntry, .flowMappingEnd] .flow
      let value ← readFlowValue fuel room .flowMappingEnd
      return (key, value) :: (← readFlowEntries fuel room false)
    else if ← accept .flowMappingEnd then return []
    else
      let key ← readNode fuel room .flow
      let value ← add none nothing
      return (key, value) :: (← readFlowEntries fuel room false)

/-- Reads the value of an entry in a flow collection that ends with a token. -/
def readFlowValue : Nat → Nat → Token → Reading Nat
  | 0, _, _ => refuse
  | fuel + 1, room, ending => do
    if ← accept .value then readUnless fuel room [.flowEntry, ending] .flow
    else add none nothing

end

/-! ## Documents -/

/-- The handles that every document has. -/
def commonHandles : List (String × String) := [("!", "!"), ("!!", "tag:yaml.org,2002:")]

/-- Reads the directives before a document: at most one version, which has to be of the first series,
and handles of tags that differ from each other. `own` are those read so far. -/
def readDirectives : Nat → Bool → List (String × String) → Reading (List (String × String))
  | 0, _, _ => refuse
  | fuel + 1, versioned, own => do
    match ← peek? with
    | some (.versionDirective major) => do
      drop
      if versioned || major ≠ 1 then refuse
      readDirectives fuel true own
    | some (.tagDirective handle start) => do
      drop
      if (own.lookup handle).isSome then refuse
      readDirectives fuel versioned ((handle, start) :: own)
    | some .otherDirective => do
      drop
      readDirectives fuel versioned own
    | _ => return own ++ commonHandles

/-- Passes over marks that end documents. -/
def dropEnds : Nat → Reading Unit
  | 0 => refuse
  | fuel + 1 => do
    if ← accept .documentEnd then dropEnds fuel

/-- The next token begins a directive, begins or ends a document, or there is none. -/
def atDocumentBoundary : Reading Bool := do
  match ← peek? with
  | none | some .documentStart | some .documentEnd | some (.versionDirective _)
  | some (.tagDirective _ _) | some .otherDirective => return true
  | _ => return false

/-- Reads a document that begins with a mark; where the text ends instead there is nothing. -/
def readMarked (fuel : Nat) : Reading Nat := do
  dropEnds fuel
  if (← peek?).isNone then add none nothing
  else
    let handles ← readDirectives fuel false []
    modify fun r => { r with handles }
    expect .documentStart
    if ← atDocumentBoundary then add none nothing else readNode fuel maxDepth .block

/-- Reads the one document of a text. -/
def readDocument (fuel : Nat) : Reading Nat := do
  let marked ← match ← peek? with
    | none => pure true
    | some .documentStart | some (.versionDirective _) | some (.tagDirective _ _)
    | some .otherDirective => pure true
    | _ => pure false
  let root ← if marked then readMarked fuel else readNode fuel maxDepth .block
  let _ ← accept .documentEnd
  dropEnds fuel
  if (← peek?).isSome then do
    let _ ← readDirectives fuel false []
    refuse
  return root

end Node

/-- The nodes of the document that the tokens of a text make. -/
def Graph.ofScanned (s : Layout.Scanned) : Except Error Graph :=
  let start : Node.Reader := ⟨s.tokens, s.fault, #[], [], [], Node.commonHandles, false⟩
  ((Node.readDocument (4 * s.tokens.length + 16)).run start).map fun (root, r) =>
    ⟨r.nodes, root, r.looped⟩

end RuleLabels.Yaml
