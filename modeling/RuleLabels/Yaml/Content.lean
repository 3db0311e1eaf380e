import RuleLabels.Yaml.Kind

/-!
# Contents of YAML documents

What the nodes of a document hold. The nodes are visited level by level from the root on: a scalar gets its
value as soon as a collection that holds it is opened, and a collection is opened after all those of the
level above. So of several faults the one nearest to the root is reported. Mappings take over the entries
that their merge keys stand for.
-/

namespace RuleLabels.Yaml

/-- What was found at a node: the value of a scalar, or a collection. -/
inductive Part where
  | value (v : Value)
  | collection (kind : CollectionKind)

/-- The nodes of a document, what was found at those that were visited, the collections that are still to
be opened, the last one first, and a bound on the steps that merge keys take. -/
structure Content where
  nodes : Array Node
  parts : Array (Option Part)
  waiting : List Nat
  mergeSteps : Nat

namespace Content

/-- A step of filling a content. -/
abbrev Filling := StateT Content (Except Error)

/-- Refuses the document. -/
def refuse {α : Type} : Filling α := throw .malformed

/-- The node with a number. -/
def node (c : Content) (n : Nat) : Node := c.nodes.getD n .nothing

/-- The entries of a node that is a mapping. -/
def entries (c : Content) (n : Nat) : List (Nat × Nat) :=
  match c.node n with
  | .mapping _ entries => entries
  | _ => []

/-- A content in which a mapping has other entries. -/
def setEntries (c : Content) (n : Nat) (entries : List (Nat × Nat)) : Content :=
  match c.node n with
  | .mapping tag _ => { c with nodes := c.nodes.setIfInBounds n (.mapping tag entries) }
  | _ => c

/-! ## Merged entries -/

/-- The keys that mark main values as texts. -/
def markTexts (c : Content) (n : Nat) : Content :=
  (c.entries n).foldl (fun c (k, _) =>
    let key := c.node k
    if key.isMain then { c with nodes := c.nodes.setIfInBounds k key.asText } else c) c

/-- The value under the first merge key of a mapping, and the entries without it. -/
def takeMerge? (c : Content) : List (Nat × Nat) → Option (Nat × List (Nat × Nat))
  | [] => none
  | (k, v) :: rest =>
    if (c.node k).isMerge then some (v, rest)
    else (takeMerge? c rest).map fun (found, rest) => (found, (k, v) :: rest)

mutual

/-- Puts the entries that the merge keys of a mapping stand for in front of its own; `taken` are those
found so far. -/
def merge : Nat → List (Nat × Nat) → Nat → Filling Unit
  | 0, _, _ => refuse
  | fuel + 1, taken, n => do
    let c ← get
    match c.takeMerge? (c.entries n) with
    | none => set ((c.setEntries n (taken ++ c.entries n)).markTexts n)
    | some (v, rest) => do
      set (c.setEntries n rest)
      let more ← takenOver fuel v
      merge fuel (taken ++ more) n

/-- The entries that a merged node gives: a mapping's own, or those of several, the last ones first. -/
def takenOver : Nat → Nat → Filling (List (Nat × Nat))
  | 0, _ => refuse
  | fuel + 1, n => do
    match (← get).node n with
    | .mapping .. => ownEntries fuel n
    | .sequence _ items => takenFrom fuel [] items
    | .scalar .. => refuse

/-- The entries of several mappings, behind which come those of the mappings before. -/
def takenFrom : Nat → List (Nat × Nat) → List Nat → Filling (List (Nat × Nat))
  | 0, _, _ => refuse
  | _ + 1, before, [] => return before
  | fuel + 1, before, n :: rest => do
    match (← get).node n with
    | .mapping .. =>
      let own ← ownEntries fuel n
      takenFrom fuel (own ++ before) rest
    | _ => refuse

/-- The entries of a mapping with those that it takes over. -/
def ownEntries : Nat → Nat → Filling (List (Nat × Nat))
  | 0, _ => refuse
  | fuel + 1, n => do
    merge fuel [] n
    return (← get).entries n

end

/-! ## Scalars -/

/-- The text of a node that is to be a scalar: its own, or that of the main value of a mapping. A mapping
that is its own main value has none. -/
def scalarText (c : Content) : Nat → Nat → Except Error String
  | 0, _ => .error (.misfit .tooDeep)
  | fuel + 1, n =>
    match c.node n with
    | .scalar _ _ s => .ok s
    | .sequence .. => .error .malformed
    | .mapping _ entries =>
      match entries.find? fun (k, _) => (c.node k).isMain with
      | some (_, v) => scalarText c fuel v
      | none => .error .malformed

/-- The value of a node that is to be a scalar of a kind. -/
def scalarValue (c : Content) (kind : ScalarKind) (n : Nat) : Except Error Value :=
  match kind with
  | .merge => .error .malformed
  | .main => .error .malformed
  | kind => do
    let s ← c.scalarText (c.nodes.size + 1) n
    match kind, c.node n with
    | .timestamp, .mapping .. => .error (.misfit .collectionAsMoment)
    | _, _ => kind.value s.toList

/-! ## Levels -/

/-- Notes what is found at a node. -/
def found (n : Nat) (p : Part) : Filling Unit :=
  modify fun c => { c with parts := c.parts.setIfInBounds n (some p) }

/-- Visits a node: a scalar gets its value, and a collection has to wait. -/
def visit (n : Nat) : Filling Unit := do
  let c ← get
  if (c.parts.getD n none).isSome then return
  match (c.node n).kind? with
  | none => refuse
  | some (.scalar kind) => found n (.value (← c.scalarValue kind n))
  | some (.collection kind) => do
    found n (.collection kind)
    modify fun c => { c with waiting := n :: c.waiting }

/-- Visits a key, which must be a scalar. -/
def visitKey (n : Nat) : Filling Unit := do
  visit n
  match (← get).parts.getD n none with
  | some (.value _) => return
  | _ => refuse

/-- Visits the entries of a mapping. -/
def visitEntries (entries : List (Nat × Nat)) : Filling Unit :=
  entries.forM fun (k, v) => do
    visitKey k
    visit v

/-- Visits pairs, each of which is a mapping with one entry. -/
def visitPairs (items : List Nat) : Filling Unit :=
  items.forM fun n => do
    match (← get).node n with
    | .mapping _ [(k, v)] => do
      visit k
      visit v
    | _ => refuse

/-- Opens a collection of a kind: visits what it holds. -/
def openCollection (n : Nat) (kind : CollectionKind) : Filling Unit := do
  let c ← get
  match kind, c.node n with
  | .sequence, .sequence _ items => items.forM visit
  | .mapping, .mapping .. | .set, .mapping .. => do
    visitEntries (← ownEntries c.mergeSteps n)
  | .pairs, .sequence _ items => visitPairs items
  | _, _ => refuse

/-- Opens the collections that wait, and then level by level those that they hold. -/
def openLevels : Nat → Filling Unit
  | 0 => return
  | fuel + 1 => do
    let level := (← get).waiting.reverse
    if level.isEmpty then return
    modify fun c => { c with waiting := [] }
    level.forM fun n => do
      match (← get).parts.getD n none with
      | some (.collection kind) => openCollection n kind
      | _ => return
    openLevels fuel

/-- The number of members that a node has. -/
def memberCount : Node → Nat
  | .scalar .. => 0
  | .sequence _ items => items.length
  | .mapping _ entries => entries.length

/-- A bound on the steps that the merge keys of all mappings take together. -/
def boundOf (nodes : Array Node) : Nat :=
  (nodes.foldl (fun n x => n + memberCount x + 1) 8) ^ 2

/-- The content of a document. -/
def ofGraph (g : Graph) : Except Error Content := do
  let start : Content := ⟨g.nodes, Array.replicate g.nodes.size none, [], boundOf g.nodes⟩
  let steps : Filling Unit := do
    visit g.root
    openLevels (g.nodes.size + 1)
  return (← steps.run start).2

end Content

end RuleLabels.Yaml
