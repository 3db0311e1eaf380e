import RuleLabels.Tree

/-!
# Trees as documents

The one form in which trees are written. Every node names its type, and the members of a group stand
under `conditions` in their order. Since trees may be nested to any depth, the writer is a loop over the
groups that are still to be written. A group is entered in the one around it as soon as it is met, while
its own members are still to come: they have a sheet of their own, which is filled when the group is taken
up, the group met last first. When every sheet is full, the sheets are put into one another.
-/

namespace RuleLabels

/-- The written form of a condition. -/
def Condition.toValue (c : Condition) : Value :=
  .object [("type", .text "condition"), ("key", .text c.key), ("operator", .text c.operator),
    ("value", c.value)]

namespace Tree

/-- The written form of a group with written members. -/
def groupValue (operator : String) (members : List Value) : Value :=
  .object [("type", .text "group"), ("operator", .text operator), ("conditions", .array members)]

/-! ## Filling the sheets -/

/-- A member on the sheet of its group: a written condition, or a group whose members stand on a sheet of
their own. -/
inductive Entry where
  | condition (written : Value)
  | group (operator : String) (sheet : Nat)

/-- The sheets, by their numbers, and the groups whose members are still to be written, with the numbers of
their sheets. -/
structure Desk where
  sheets : Array (Array Entry)
  pending : List (List Tree × Nat)

namespace Desk

/-- The work that groups with these members stand for. -/
def workOf : List (List Tree × Nat) → Nat
  | [] => 0
  | (members, _) :: rest => 1 + weights members + workOf rest

/-- Enters a tree at the end of a sheet. A group gets a new sheet and is the next to be taken up. -/
def enter (sheet : Nat) (d : Desk) : Tree → Desk
  | leaf c => ⟨d.sheets.modify sheet (·.push (.condition c.toValue)), d.pending⟩
  | group operator members =>
    ⟨(d.sheets.modify sheet (·.push (.group operator d.sheets.size))).push #[],
      (members, d.sheets.size) :: d.pending⟩

/-- Enters trees at the end of a sheet, in their order. -/
def enterAll (sheet : Nat) (ts : List Tree) (d : Desk) : Desk := ts.foldl (enter sheet) d

/-- To enter trees leaves no more work than the trees stand for. -/
theorem workOf_enterAll (sheet : Nat) (ts : List Tree) (d : Desk) :
    workOf (enterAll sheet ts d).pending ≤ workOf d.pending + weights ts := by
  induction ts generalizing d with
  | nil => exact Nat.le_refl _
  | cons t rest ih =>
    have := ih (enter sheet d t)
    cases t <;> simp only [enterAll, List.foldl_cons, enter, workOf, weights, weight] at this ⊢ <;> omega

/-- Takes up the groups, the last one first, until every sheet is full. -/
def fill : Desk → Array (Array Entry)
  | ⟨sheets, []⟩ => sheets
  | ⟨sheets, (members, sheet) :: rest⟩ => fill (enterAll sheet members ⟨sheets, rest⟩)
termination_by d => workOf d.pending
decreasing_by
  have := workOf_enterAll sheet members ⟨sheets, rest⟩
  simp only [workOf] at this ⊢
  omega

end Desk

/-! ## Putting the sheets together -/

/-- The value of an entry, where `later` are the members that stand on the last ones of `count` sheets, the
last sheet first. -/
def Entry.toValue (count : Nat) (later : Array (List Value)) : Entry → Value
  | condition written => written
  | group operator sheet => groupValue operator (later.getD (count - 1 - sheet) [])

/-- The members that stand on each of the last ones of `count` sheets, the last sheet first. A group has a
sheet after the one that it is entered on. -/
def assemble (count : Nat) (sheets : List (Array Entry)) : Array (List Value) :=
  sheets.foldr (fun entries later => later.push (entries.toList.map (Entry.toValue count later))) #[]

/-- The written form of a tree. -/
def toValue : Tree → Value
  | leaf c => c.toValue
  | group operator members =>
    let sheets := Desk.fill ⟨#[#[]], [(members, 0)]⟩
    groupValue operator ((assemble sheets.size sheets.toList).back?.getD [])

end Tree

end RuleLabels
