import RuleLabels.Value.Key
import RuleLabels.Value.Shown
import RuleLabels.Yaml.Content

/-!
# Reading YAML

YAML texts as values. Of two entries of a mapping with the same key the last gives the value. A node that
several collections hold is one value, and a collection that holds itself is unfolded for some rounds, with
the text that messages show for it.
-/

namespace RuleLabels.Yaml

namespace Content

/-- The value of a scalar. -/
def scalar (c : Content) (n : Nat) : Value :=
  match c.parts.getD n none with
  | some (.value v) => v
  | _ => .null

/-- The value of a node, by those of the nodes that it holds. -/
def assemble {m : Type → Type} [Monad m] (c : Content) (child : Nat → m Value) (n : Nat) : m Value := do
  match c.parts.getD n none, c.node n with
  | some (.value v), _ => return v
  | some (.collection .sequence), .sequence _ items => return .array (← items.mapM child)
  | some (.collection .mapping), .mapping _ entries =>
    return .ofEntries (← entries.mapM fun (k, v) => do return (c.scalar k, ← child v))
  | some (.collection .set), .mapping _ entries =>
    let keys := entries.foldl (fun done (k, _) => Value.putEntry (c.scalar k) .null done) []
    return .set (Value.setOrder (keys.map Prod.fst))
  | some (.collection .pairs), .sequence _ items =>
    return .array (← items.mapM fun i => do
      match c.entries i with
      | [(k, v)] => return .tuple [← child k, ← child v]
      | _ => return .null)
  | _, _ => return .null

/-! ## Shared nodes -/

/-- The value of a node in a document without loops; the values of the nodes so far are kept. -/
def shared (c : Content) : Nat → Nat → StateM (Array (Option Value)) Value
  | 0, _ => return .null
  | fuel + 1, n => do
    match (← get).getD n none with
    | some v => return v
    | none => do
      let v ← c.assemble (shared c fuel) n
      modify fun known => known.setIfInBounds n (some v)
      return v

/-! ## Loops -/

/-- The numbers of the nodes that a node holds. -/
def members (c : Content) (n : Nat) : List Nat :=
  match c.node n with
  | .scalar .. => []
  | .sequence _ items => items
  | .mapping _ entries => entries.flatMap fun (k, v) => [k, v]

/-- The nodes that can be reached from some, besides those already seen. -/
def reach (c : Content) : Nat → List Nat → List Nat → List Nat
  | 0, seen, _ => seen
  | _ + 1, seen, [] => seen
  | fuel + 1, seen, n :: rest =>
    if seen.contains n then reach c fuel seen rest else reach c fuel (n :: seen) (c.members n ++ rest)

/-- A node holds itself. -/
def holdsItself (c : Content) (n : Nat) : Bool :=
  (c.reach c.mergeSteps [] (c.members n)).contains n

/-- What stands for a collection inside itself. -/
def again (c : Content) (n : Nat) : Value :=
  match c.parts.getD n none with
  | some (.collection .mapping) => .looped "\x7b...\x7d" (.object [])
  | _ => .looped "[...]" (.array [])

/-- The value of a node below others, in which each node may stand below itself for some rounds. -/
def unfolded (c : Content) (rounds : Nat) : Nat → List Nat → Nat → Value
  | 0, _, n => c.again n
  | fuel + 1, above, n =>
    if rounds ≤ above.count n then c.again n
    else
      Id.run (c.assemble (fun k => pure (unfolded c rounds fuel (n :: above) k)) n)

/-- The value of a node below others in a document with loops. -/
def looping (c : Content) : Nat → List Nat → Nat → Value
  | 0, _, n => c.again n
  | fuel + 1, above, n =>
    if 2 ≤ above.count n then c.again n
    else
      let v := Id.run (c.assemble (fun k => pure (looping c fuel (n :: above) k)) n)
      if c.holdsItself n then .looped (c.unfolded 1 (c.nodes.size + 1) [] n).shown v else v

/-- The value of the root of a document. -/
def value (c : Content) (g : Graph) : Value :=
  if g.looped then c.looping (2 * c.nodes.size + 1) [] g.root
  else ((c.shared (c.nodes.size + 1) g.root).run (Array.replicate c.nodes.size none)).1

end Content

/-- Reads a text as one value. -/
def read (s : String) : Except Error Value := do
  let g ← Graph.ofScanned (scan s.toList)
  return (← Content.ofGraph g).value g

end RuleLabels.Yaml
