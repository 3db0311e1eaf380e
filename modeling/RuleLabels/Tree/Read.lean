import RuleLabels.Text.Cut
import RuleLabels.Tree

/-!
# Trees from documents

Reading of the written forms of condition trees: a node may leave out its type, a group may list its
members under `children`, and its operator may be in any letter case. Nodes are checked in the order of
the document, a group before its members, so the first fault in that order is the one reported. The
reader is a loop over the open groups. It opens a member without knowing where it stands, and finds the
place of a fault through the groups that are open.
-/

namespace RuleLabels

/-! ## Size of a document -/

namespace Value

mutual

/-- The number of values that a value consists of, with two more for each array or object. -/
def weight : Value → Nat
  | array items => 2 + weights items
  | object fields => 2 + fieldWeights fields
  | mapping entries => 2 + entryWeights entries
  | looped _ v => weight v
  | _ => 1

/-- The weight of a list of values. -/
def weights : List Value → Nat
  | [] => 0
  | v :: rest => v.weight + weights rest

/-- The weight of a list of fields. -/
def fieldWeights : List (String × Value) → Nat
  | [] => 0
  | (_, v) :: rest => v.weight + fieldWeights rest

/-- The weight of a list of entries, without their names. -/
def entryWeights : List (Value × Value) → Nat
  | [] => 0
  | (_, v) :: rest => v.weight + entryWeights rest

end

/-- No value is without weight. -/
theorem weight_pos : ∀ v : Value, 0 < v.weight
  | null | bool _ | int _ | float _ | text _ | moment _ | date _ | bytes _ | tuple _ | set _ => by
    simp only [weight]; omega
  | array _ | object _ | mapping _ => by simp only [weight]; omega
  | looped _ v => by simpa only [weight] using weight_pos v

/-- The fields with texts as names weigh no more than all entries. -/
theorem fieldWeights_textEntries (entries : List (Value × Value)) :
    fieldWeights (textEntries entries) ≤ entryWeights entries := by
  fun_induction textEntries entries with
  | case1 => simp only [fieldWeights, entryWeights, Nat.le_refl]
  | case2 k v rest ih => simp only [fieldWeights, entryWeights]; omega
  | case3 e rest _ ih =>
    obtain ⟨k, v⟩ := e
    simp only [entryWeights]
    omega

/-- An object weighs more than its fields. -/
theorem fieldWeights_of_fields? {v : Value} {fields : Fields} (h : v.fields? = some fields) :
    2 + fieldWeights fields ≤ v.weight := by
  fun_induction fields? v with
  | case1 found =>
    obtain rfl : found = fields := by simpa using h
    simp only [weight, Nat.le_refl]
  | case2 entries =>
    obtain rfl : textEntries entries = fields := by simpa using h
    have := fieldWeights_textEntries entries
    simp only [weight]
    omega
  | case3 _ v ih => simpa only [weight] using ih h
  | case4 => simp at h

/-- An array weighs more than its items. -/
theorem weights_of_items? {v : Value} {items : List Value} (h : v.items? = some items) :
    2 + weights items ≤ v.weight := by
  fun_induction items? v with
  | case1 found =>
    obtain rfl : found = items := by simpa using h
    simp only [weight, Nat.le_refl]
  | case2 _ v ih => simpa only [weight] using ih h
  | case3 => simp at h

/-- The value of a field weighs no more than all fields. -/
theorem weight_le_of_lookup {fields : List (String × Value)} {key : String} {v : Value}
    (h : fields.lookup key = some v) : v.weight ≤ fieldWeights fields := by
  induction fields with
  | nil => simp at h
  | cons f rest ih =>
    obtain ⟨k, w⟩ := f
    simp only [List.lookup_cons] at h
    split at h
    · obtain rfl : w = v := by simpa using h
      simp [fieldWeights]
    · have := ih h
      simp only [fieldWeights]
      omega

end Value

namespace Fields

/-- A field that is neither absent nor null is found. -/
theorem lookup_of_present? {fields : Fields} {key : String} {v : Value}
    (h : fields.present? key = some v) : fields.lookup key = some v := by
  simp only [present?, get?, Option.filter_eq_some_iff] at h
  exact h.1

end Fields

/-! ## Nodes -/

namespace Tree

/-- The two types of nodes. -/
inductive NodeType where
  | condition
  | group
  deriving DecidableEq

/-- The type of a node: the one it names, or else the one whose fields it has. -/
def nodeType (fields : Fields) (path : Path) : Checked NodeType :=
  match fields.present? "type" with
  | some (.text "condition") => .ok .condition
  | some (.text "group") => .ok .group
  | some v => refuseShown (path.field "type") .unknownNodeType v
  | none =>
    if fields.has "key" then .ok .condition
    else if fields.has "conditions" || fields.has "children" then .ok .group
    else refuse path .undecidedNodeType

/-- The operator of a condition. -/
def readComparison (v : Value) (path : Path) : Checked String :=
  match v with
  | .text s => if (Comparison.ofOperator? s).isSome then .ok s else refuse path (.unknownComparison v)
  | v => refuseShown path .unknownComparison v

/-- The text of the value that a condition compares with. -/
def readOperand (v : Value) (path : Path) : Checked Value :=
  if v.items?.isSome || v.fields?.isSome then refuse path .notAScalar
  else if !v.hasText then refuse path .longInteger
  else .ok (.text v.rendered)

/-- Reads a condition. -/
def readCondition (fields : Fields) (path : Path) : Checked Condition := do
  let key ← fields.requireText "key" path
  let operator ← readComparison (← fields.require "operator" path) (path.field "operator")
  let value ← readOperand (← fields.require "value" path) (path.field "value")
  return ⟨key, operator, value⟩

/-- The operator of a group, in capitals. -/
def readJunction (v : Value) (path : Path) : Checked String :=
  match v with
  | .text s =>
    if (Junction.ofOperator? (Text.upper s)).isSome then .ok (Text.upper s)
    else refuse path (.unknownJunction v)
  | v => refuseShown path .unknownJunction v

/-- The field under which a group lists its members. -/
def childField (fields : Fields) : String :=
  if fields.has "conditions" then "conditions" else "children"

/-- A group whose own fields are in order, with its members as they stand in the document. -/
structure Opened (bound : Nat) where
  operator : String
  childField : String
  children : List Value
  smaller : 2 + Value.weights children ≤ bound

/-- Reads the fields of a group that are its own. -/
def openGroup (fields : Fields) (path : Path) : Checked (Opened (Value.fieldWeights fields)) := do
  let operator ← readJunction (← fields.require "operator" path) (path.field "operator")
  let key := childField fields
  match h : fields.present? key with
  | none => refuse (path.field key) .missing
  | some v =>
    match hv : v.items? with
    | none => refuse (path.field key) (.notAnArray v.kind)
    | some [] => refuse (path.field key) .emptyGroup
    | some (first :: rest) =>
      return ⟨operator, key, first :: rest, by
        have := Value.weight_le_of_lookup (Fields.lookup_of_present? h)
        have := Value.weights_of_items? hv
        omega⟩

/-- A node whose own fields are in order. -/
inductive Node (bound : Nat) where
  | condition (c : Condition)
  | group (g : Opened bound)

/-- Reads the fields of a node that are its own. -/
def openNode (v : Value) (path : Path) : Checked (Node v.weight) :=
  match h : v.fields? with
  | none => refuse path (.notAnObject v.kind)
  | some fields =>
    match nodeType fields path with
    | .error e => .error e
    | .ok .condition => (readCondition fields path).map .condition
    | .ok .group =>
      (openGroup fields path).map fun g =>
        .group ⟨g.operator, g.childField, g.children, by
          have := g.smaller
          have := Value.fieldWeights_of_fields? h
          omega⟩

/-! ## The loop over the open groups -/

/-- A group under construction: its number in the group around it, its finished members, the last one
first, with their number, and those still in the document. -/
structure OpenGroup where
  operator : String
  childField : String
  index : Nat
  done : List Tree
  count : Nat
  pending : List Value

/-- The work left in the open groups. -/
def unread : List OpenGroup → Nat
  | [] => 0
  | g :: outer => 1 + Value.weights g.pending + unread outer

/-- The group with a member added. -/
def OpenGroup.add (g : OpenGroup) (t : Tree) : OpenGroup :=
  { g with done := t :: g.done, count := g.count + 1 }

/-- The place of the member with number `i` of the innermost open group. The outermost group stands at the
root. -/
def placeIn (root : Path) : List OpenGroup → Nat → Path
  | [], _ => root
  | g :: outer, i => ((placeIn root outer g.index).field g.childField).index i

/-- Reads the rest of the innermost open group `g`, and then of the groups around it. -/
def build (root : Path) (g : OpenGroup) (outer : List OpenGroup) : Checked Tree :=
  match g with
  | ⟨operator, childField, index, done, count, v :: rest⟩ =>
    match openNode v .here with
    | .error e =>
      .error (e.within (placeIn root (⟨operator, childField, index, done, count, rest⟩ :: outer) count))
    | .ok (.condition c) => build root ⟨operator, childField, index, leaf c :: done, count + 1, rest⟩ outer
    | .ok (.group inner) =>
      build root ⟨inner.operator, inner.childField, count, [], 0, inner.children⟩
        (⟨operator, childField, index, done, count, rest⟩ :: outer)
  | ⟨operator, _, _, done, _, []⟩ =>
    match outer with
    | [] => .ok (group operator done.reverse)
    | parent :: outer => build root (parent.add (group operator done.reverse)) outer
termination_by unread (g :: outer)
decreasing_by
  · have := Value.weight_pos v
    simp only [unread, Value.weights]
    omega
  · have := inner.smaller
    simp only [unread, Value.weights]
    omega
  · simp only [unread, OpenGroup.add]
    omega

/-- Reads the members of a group whose own fields are in order. -/
def finish {bound : Nat} (g : Opened bound) (path : Path) : Checked Tree :=
  build path ⟨g.operator, g.childField, 0, [], 0, g.children⟩ []

/-- Reads a group. -/
def readGroup (fields : Fields) (path : Path) : Checked Tree := do
  finish (← openGroup fields path) path

/-- The fields of a value that is asked for one of them. An array and a text have none, but one that holds
the name of the field, and all else, cannot even be asked. -/
def askedFields (key : String) (v : Value) (path : Path) : Checked Fields :=
  let refused : Checked Fields := refuse path (.noFields v.kind)
  match v with
  | .text s => if Text.isInside key.toList s.toList then refused else .ok []
  | .array items =>
    let named := items.any fun
      | .text s => s = key
      | _ => false
    if named then refused else .ok []
  | v =>
    match v.fields? with
    | some fields => .ok fields
    | none => refused

/-- Reads a value as a group, whatever it is. -/
def readAsGroup (v : Value) (path : Path) : Checked Tree := do
  readGroup (← askedFields "operator" v path) path

/-- Reads a value as a condition, whatever it is. -/
def readAsCondition (v : Value) (path : Path) : Checked Condition := do
  readCondition (← askedFields "key" v path) path

/-- Reads a tree. -/
def read (v : Value) (path : Path) : Checked Tree :=
  match openNode v path with
  | .error e => .error e
  | .ok (.condition c) => .ok (leaf c)
  | .ok (.group g) => finish g path

/-- A tree as the conditions of a rule: a lone condition is the only member of a group. -/
def rooted : Tree → Tree
  | leaf c => group "AND" [leaf c]
  | t => t

/-- Reads the conditions of a rule. -/
def readConditions (v : Value) (path : Path) : Checked Tree := (read v path).map rooted

end Tree

end RuleLabels
