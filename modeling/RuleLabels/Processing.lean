import RuleLabels.Classify
import RuleLabels.Management
import RuleLabels.Statistics

/-!
# Processing of payloads

Payloads are given labels by the rules of a store and kept as records, or given labels alone; and the
records are summed up.
-/

namespace RuleLabels

/-- The failure to evaluate the conditions of a rule. -/
def Failure.ofEvaluation : Rule.EvaluationFault → Failure
  | .numberTooLarge => numberTooLarge
  | .longInteger => longInteger
  | .nestedTooDeeply => nestedTooDeeply "maximum recursion depth exceeded"
  | .loneCondition => loneCondition
  | .noFields kind => notFields (.noFields kind)

namespace Service

/-- The sender of the messages about payloads. -/
def processingSender : String := "labeler.processing"

/-- The labels of a payload by some rules. -/
def labelsOf (payload : Fields) (rules : List Rule) : Service (List String) :=
  match Rule.labels Value.stackLevels payload rules with
  | .ok labels => return labels
  | .error e => throw (.ofEvaluation e)

/-- Gives labels to a payload and keeps the record. -/
def process (v : Value) : Service Record := do
  let payload ← Action.ofChecked v.readPayload
  let current ← rules
  let labels ← labelsOf payload current
  let r : Record := ⟨← Action.freshId, payload, labels, ← Action.now⟩
  append r
  Action.log .info processingSender
    s!"processed record id={r.id} active_rules={(Rule.ordered current).length} labels={Value.shownTexts labels}"
  return r

/-- The labels of a payload, and when it got them. -/
structure DryRun where
  labels : List String
  timestamp : Timestamp

/-- Gives labels to a payload and keeps nothing. -/
def dryRun (v : Value) : Service DryRun := do
  let payload ← Action.ofChecked v.readPayload
  let current ← rules
  let labels ← labelsOf payload current
  Action.log .info processingSender
    s!"dry run active_rules={(Rule.ordered current).length} labels={Value.shownTexts labels}"
  return ⟨labels, ← Action.now⟩

/-- Sums up the records that meet some criteria. -/
def statistics (c : Criteria) : Service Snapshot := do
  let all ← records
  let snapshot := Snapshot.ofRecords (← Action.now) c all
  Action.log .debug processingSender
    s!"statistics over {all.length} stored records, {snapshot.total} after filter"
  return snapshot

end Service

end RuleLabels
