import Mathlib.Tactic.Common
import RuleLabels.Proofs.Store.Document
import RuleLabels.Proofs.Store.Transaction
import RuleLabels.Store

/-!
# Stores that fail

A store reads without changing anything, and changes what it keeps in one last step.  So whatever it refuses
to take, and for whatever reason, the world is left alike.

* `Store.reads_rules` and `Store.reads_records`: what a store gives depends on the time and the entries;
* `Store.run_saveRules_eq_error` and `Store.run_append_eq_error`: what a store does not take leaves no trace.
-/

namespace RuleLabels

/-! ## Folders -/

namespace FolderStore

variable {s : FolderStore} {w w' : World} {e : Failure}

theorem reads_readDocument (l : Location) : (readDocument l).Reads := by
  refine .of_get (fun w => ?_) fun h => ?_
  · split
    · split
      · exact .pure _
      · exact .throw _
      · exact .throw _
      · exact .throw _
    · exact .pure _
    · split
      · exact .throw _
      · split
        · exact .pure _
        · exact .throw _
        · exact .throw _
  · rw [Files.content_congr h.entries]

theorem reads_rules (s : FolderStore) : s.rules.Reads := by
  refine (reads_readDocument _).bind fun v => .bind .now fun now => ?_
  split
  · exact .pure _
  · exact .throw _

theorem reads_recordItems (s : FolderStore) : s.recordItems.Reads := by
  refine (reads_readDocument _).bind fun v => ?_
  split
  · exact .pure _
  · exact .throw _

theorem reads_records (s : FolderStore) : s.records.Reads := by
  refine (reads_recordItems s).bind fun items => ?_
  split
  · exact .pure _
  · exact .throw _

theorem run_saveRules_eq_error {rules : List Rule} (h : ExceptT.run (s.saveRules rules) w = (.error e, w')) :
    w.Alike w' := by
  rcases Action.run_bind_eq_error h with hwrite | ⟨_, v, -, hlog⟩
  · exact run_writeDocument_eq_error hwrite
  · cases hlog

theorem run_append_eq_error {r : Record} (h : ExceptT.run (s.append r) w = (.error e, w')) : w.Alike w' := by
  rcases Action.run_bind_eq_error h with hitems | ⟨items, v, hitems, hwrite⟩
  · obtain rfl := (reads_recordItems s).world_eq hitems
    exact .refl w
  · obtain rfl := (reads_recordItems s).world_eq hitems
    exact run_writeDocument_eq_error hwrite

end FolderStore

/-! ## Databases -/

namespace DatabaseStore

variable {s : DatabaseStore} {w w' : World} {e : Failure}

theorem reads_rules (s : DatabaseStore) : s.rules.Reads := by
  refine (reads_tables s).bind fun t => ?_
  split
  · exact .pure _
  · exact .throw _

theorem reads_records (s : DatabaseStore) : s.records.Reads :=
  (reads_tables s).bind fun _ => .ofChecked _

end DatabaseStore

/-! ## Stores -/

namespace Store

variable {s : Store} {w w' : World} {e : Failure}

theorem reads_rules (s : Store) : s.rules.Reads := by
  cases s with
  | memory rules records => exact .pure rules
  | folder s => exact s.reads_rules
  | database s => exact s.reads_rules

theorem reads_records (s : Store) : s.records.Reads := by
  cases s with
  | memory rules records => exact .pure records
  | folder s => exact s.reads_records
  | database s => exact s.reads_records

theorem reads_info (s : Store) : s.info.Reads := by
  cases s with
  | memory rules records => exact .pure _
  | folder s => exact .pure _
  | database s => exact s.reads_tables.bind fun _ => .pure _

/-- Rules that a store does not take leave no trace. -/
theorem run_saveRules_eq_error {rules : List Rule} (h : ExceptT.run (s.saveRules rules) w = (.error e, w')) :
    w.Alike w' := by
  cases s with
  | memory rules' records => cases h
  | folder s =>
    rcases Action.run_bind_eq_error h with hsave | ⟨_, _, -, hstore⟩
    · exact FolderStore.run_saveRules_eq_error hsave
    · cases hstore
  | database s =>
    rcases Action.run_bind_eq_error h with hsave | ⟨_, _, -, hstore⟩
    · rw [DatabaseStore.run_saveRules_eq_error hsave]
      exact .refl w
    · cases hstore

/-- A record that a store does not take leaves no trace. -/
theorem run_append_eq_error {r : Record} (h : ExceptT.run (s.append r) w = (.error e, w')) : w.Alike w' := by
  cases s with
  | memory rules records => cases h
  | folder s =>
    rcases Action.run_bind_eq_error h with happend | ⟨_, _, -, hstore⟩
    · exact FolderStore.run_append_eq_error happend
    · cases hstore
  | database s =>
    rcases Action.run_bind_eq_error h with happend | ⟨_, _, -, hstore⟩
    · rw [DatabaseStore.run_append_eq_error happend]
      exact .refl w
    · cases hstore

end Store

end RuleLabels
