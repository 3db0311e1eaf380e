import RuleLabels.Proofs.Places
import RuleLabels.Tree.Read

/-!
# The reading loop follows the recursion

`Tree.read` keeps the open groups in a list and finishes one member at a time, and names the place of a fault
through the open groups.  `readDeep` reads a tree by recursion: a node's own fields first, then its members
from the left, each with all that it holds, where every place is named from the root.

* `relocates_openNode`: a node is opened alike wherever it stands;
* `unwound` is the invariant of the loop: what is read when the groups are closed one after the other;
* `build_eq_unwound` shows that no step of the loop changes it;
* `read_eq_readDeep` concludes that the loop gives the trees and the faults of the recursion.
-/

namespace RuleLabels.Tree

/-! ## Opening a node anywhere -/

theorem pointsAt_readComparison (v : Value) : PointsAt [] (readComparison v) := by
  intro path
  rw [readComparison.eq_def, readComparison.eq_def]
  split
  · split
    · rfl
    · rfl
  · rfl

theorem pointsAt_readOperand (v : Value) : PointsAt [] (readOperand v) := by
  intro path
  rw [readOperand, readOperand]
  split
  · rfl
  · split
    · rfl
    · rfl

theorem pointsAt_readJunction (v : Value) : PointsAt [] (readJunction v) := by
  intro path
  rw [readJunction.eq_def, readJunction.eq_def]
  split
  · split
    · rfl
    · rfl
  · rfl

theorem relocates_nodeType (fields : Fields) : Relocates (nodeType fields) := by
  intro p q
  rw [nodeType.eq_def, nodeType.eq_def]
  split
  · rfl
  · rfl
  · rfl
  · split
    · rfl
    · split
      · rfl
      · rfl

/-- The fields of a condition are read one after the other. -/
theorem readCondition_eq (fields : Fields) (path : Path) :
    readCondition fields path =
      fields.readRequired "key" Value.nonBlank path >>= fun key =>
        fields.readRequired "operator" readComparison path >>= fun operator =>
          fields.readRequired "value" readOperand path >>= fun value => .ok ⟨key, operator, value⟩ := by
  simp only [readCondition, Fields.readRequired, Fields.requireText, bind_assoc]
  rfl

theorem relocates_readCondition (fields : Fields) : Relocates (readCondition fields) := by
  have hkey := fields.pointsAt_readRequired "key" Value.pointsAt_nonBlank
  have hoperator := fields.pointsAt_readRequired "operator" pointsAt_readComparison
  have hvalue := fields.pointsAt_readRequired "value" pointsAt_readOperand
  rw [funext (readCondition_eq fields)]
  exact hkey.relocates.bind fun _ => hoperator.relocates.bind fun _ => hvalue.relocates.bind fun _ => .ok _

theorem relocates_openGroup (fields : Fields) : Relocates (openGroup fields) := by
  intro p q
  have hoperator := (fields.pointsAt_readRequired "operator" pointsAt_readJunction).relocates p q
  simp only [Fields.readRequired] at hoperator
  simp only [openGroup, ← bind_assoc, hoperator]
  cases fields.require "operator" q >>= fun v => readJunction v (q.field "operator") with
  | error e => rfl
  | ok operator =>
    dsimp only [Except.mapError, bind, Except.bind]
    split
    · rfl
    · split
      · rfl
      · rfl
      · rfl

/-- A node is opened alike wherever it stands. -/
theorem relocates_openNode (v : Value) : Relocates (openNode v) := by
  intro p q
  rw [openNode, openNode]
  split
  · rfl
  · rename_i fields _
    rw [relocates_nodeType fields p q]
    cases nodeType fields q with
    | error e => rfl
    | ok t =>
      cases t with
      | condition => exact (relocates_readCondition fields).map Node.condition p q
      | group => exact (relocates_openGroup fields).map _ p q

/-! ## Reading by recursion -/

mutual

/-- Reads a tree by recursion. -/
def readDeep (v : Value) (path : Path) : Checked Tree :=
  match openNode v path with
  | .error e => .error e
  | .ok (.condition c) => .ok (leaf c)
  | .ok (.group g) =>
    match readMembers g.children (path.field g.childField) 0 with
    | .error e => .error e
    | .ok ts => .ok (group g.operator ts)
termination_by v.weight
decreasing_by
  have := g.smaller
  omega

/-- Reads the members of a group, of which the first has the number `next`, from the left. -/
def readMembers (vs : List Value) (members : Path) (next : Nat) : Checked (List Tree) :=
  match vs with
  | [] => .ok []
  | v :: rest =>
    match readDeep v (members.index next) with
    | .error e => .error e
    | .ok t =>
      match readMembers rest members (next + 1) with
      | .error e => .error e
      | .ok ts => .ok (t :: ts)
termination_by 1 + Value.weights vs
decreasing_by
  · simp only [Value.weights]
    omega
  · have := v.weight_pos
    simp only [Value.weights]
    omega

end

/-! ## The invariant of the loop -/

/-- The tree of an open group, whose other members are read by recursion. -/
def closed (root : Path) (outer : List OpenGroup) (g : OpenGroup) : Checked Tree :=
  match readMembers g.pending ((placeIn root outer g.index).field g.childField) g.count with
  | .error e => .error e
  | .ok ts => .ok (group g.operator (g.done.reverse ++ ts))

/-- The outermost tree, when a finished tree is a member of the innermost of some open groups. -/
def unwound (root : Path) : List OpenGroup → Tree → Checked Tree
  | [], t => .ok t
  | g :: outer, t =>
    match closed root outer (g.add t) with
    | .error e => .error e
    | .ok t => unwound root outer t

/-- An open group with its next member read at its place. -/
theorem closed_cons (root : Path) (outer : List OpenGroup) (operator childField : String) (index : Nat)
    (done : List Tree) (count : Nat) (v : Value) (rest : List Value) :
    closed root outer ⟨operator, childField, index, done, count, v :: rest⟩ =
      match readDeep v (((placeIn root outer index).field childField).index count) with
      | .error e => .error e
      | .ok t => closed root outer ⟨operator, childField, index, t :: done, count + 1, rest⟩ := by
  simp only [closed, readMembers]
  cases readDeep v (((placeIn root outer index).field childField).index count) with
  | error e => rfl
  | ok t =>
    cases readMembers rest ((placeIn root outer index).field childField) (count + 1) with
    | error e => rfl
    | ok ts => simp

/-- No step of the loop changes what is read when all groups are closed. -/
theorem build_eq_unwound (root : Path) (g : OpenGroup) (outer : List OpenGroup) :
    build root g outer =
      match closed root outer g with
      | .error e => .error e
      | .ok t => unwound root outer t := by
  fun_induction build root g outer with
  | case1 outer operator childField index done count v rest e he =>
    -- the place that the open groups give is the one at which the recursion opens the member
    rw [closed_cons, readDeep, (relocates_openNode v).eq_here, he]
    rfl
  | case2 outer operator childField index done count v rest c hc ih =>
    rw [ih, closed_cons, readDeep, (relocates_openNode v).eq_here, hc]
    rfl
  | case3 outer operator childField index done count v rest inner hi ih =>
    -- the new group is closed first, and is then the next member of the one that holds it
    rw [ih, closed_cons, readDeep, (relocates_openNode v).eq_here, hi, closed]
    simp only [Except.mapError, placeIn, List.reverse_nil, List.nil_append]
    cases readMembers inner.children
        ((((placeIn root outer index).field childField).index count).field inner.childField) 0 with
    | error e => rfl
    | ok ts => rfl
  | case4 operator childField index done count =>
    simp only [closed, readMembers, List.append_nil, unwound]
  | case5 operator childField index done count parent outer ih =>
    rw [List.unattach_reverse, List.unattach_attach] at ih
    rw [ih]
    simp only [closed, readMembers, List.append_nil, unwound]

/-- The loop reads what the recursion reads, and fails with the same fault at the same place. -/
theorem read_eq_readDeep (v : Value) (path : Path) : read v path = readDeep v path := by
  rw [read, readDeep]
  cases openNode v path with
  | error e => rfl
  | ok node =>
    cases node with
    | condition c => rfl
    | group g =>
      simp only [finish, build_eq_unwound, closed, unwound, placeIn]
      cases readMembers g.children (path.field g.childField) 0 with
      | error e => rfl
      | ok ts => rfl

end RuleLabels.Tree
