import RuleLabels.Yaml.Node
import RuleLabels.Yaml.Scalar

/-!
# Kinds of nodes

What a node is said to be: by its tag where it has one, and else by its form. A tag may promise what the
node is not; that shows only where the node is read.
-/

namespace RuleLabels.Yaml

/-- The kinds of collections. Pairs are entries in order, in which a name may be repeated. -/
inductive CollectionKind where
  | sequence
  | mapping
  | set
  | pairs
  deriving DecidableEq

/-- What a node is. -/
inductive NodeKind where
  | scalar (kind : ScalarKind)
  | collection (kind : CollectionKind)
  deriving DecidableEq

/-- What the tags of the common kinds begin with. -/
def tagStart : String := "tag:yaml.org,2002:"

/-- The kinds by the tags that name them. -/
def kindsByTag : List (String × NodeKind) := [
  ("null", .scalar .null), ("bool", .scalar .bool), ("int", .scalar .int), ("float", .scalar .float),
  ("binary", .scalar .binary), ("timestamp", .scalar .timestamp), ("str", .scalar .text),
  ("merge", .scalar .merge), ("value", .scalar .main), ("seq", .collection .sequence),
  ("map", .collection .mapping), ("set", .collection .set), ("omap", .collection .pairs),
  ("pairs", .collection .pairs)]

/-- The kind that a tag names. -/
def kindOfTag? (tag : String) : Option NodeKind :=
  (kindsByTag.find? fun (name, _) => tagStart ++ name = tag).map Prod.snd

namespace Node

/-- The kind of a node, unless its tag names none. -/
def kind? : Node → Option NodeKind
  | scalar (some tag) _ _ => kindOfTag? tag
  | scalar none plain s => some (.scalar (if plain then .ofPlain s.toList else .text))
  | sequence (some tag) _ => kindOfTag? tag
  | sequence none _ => some (.collection .sequence)
  | mapping (some tag) _ => kindOfTag? tag
  | mapping none _ => some (.collection .mapping)

/-- As a key a node stands for the entries of others. -/
def isMerge (n : Node) : Bool := n.kind? = some (.scalar .merge)

/-- As a key a node marks the main value of its mapping. -/
def isMain (n : Node) : Bool := n.kind? = some (.scalar .main)

/-- A node as a text. -/
def asText (n : Node) : Node :=
  let tag := some (tagStart ++ "str")
  match n with
  | scalar _ _ s => .scalar tag false s
  | sequence _ items => .sequence tag items
  | mapping _ entries => .mapping tag entries

end Node

end RuleLabels.Yaml
