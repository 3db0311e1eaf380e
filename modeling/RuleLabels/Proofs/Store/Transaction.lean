import Mathlib.Tactic.Common
import RuleLabels.Proofs.Reading
import RuleLabels.Store.Database

/-!
# Tables are changed as a whole

A database store changes its tables in one write at the end of a transaction.  Whatever fails before leaves
the world as it was, and so does the write itself if it fails.
-/

namespace RuleLabels.DatabaseStore

variable {s s' : DatabaseStore} {w w' : World} {t : Tables} {change : Tables → Except Failure Tables}

/-! ## Steps that change nothing -/

theorem reads_tables (s : DatabaseStore) : s.tables.Reads := by
  rw [tables]
  cases s.place with
  | memory separate t => exact .pure t
  | bare => exact .throw _
  | file l number writes =>
    refine .of_get (fun w => ?_) fun h => ?_
    · split
      · exact .pure _
      · exact .throw _
      · exact .throw _
    · rw [Files.contentOf?_congr h.entries h.removed]

theorem reads_checkWritable (s : DatabaseStore) : s.checkWritable.Reads := by
  refine .of_get (fun w => ?_) fun {w w'} h => ?_
  · split
    · exact .throw _
    · exact .pure ()
  · have hplace : s.inPlace w'.files = s.inPlace w.files := by
      rw [inPlace, inPlace]
      cases s.place with
      | file l number writes => simp only [Files.numberAt?_congr h.entries]
      | _ => rfl
    rw [hplace]

/-! ## Writes -/

/-- A database that takes other tables has them in memory or in its file. -/
theorem run_setTables_eq_ok (h : ExceptT.run (s.setTables t) w = (.ok s', w')) :
    (∃ separate old, s.place = .memory separate old ∧ s' = { s with place := .memory separate t } ∧ w' = w) ∨
      (s.place = .bare ∧ s' = s ∧ w' = w) ∨
      ∃ l number writes fs, s.place = .file l number writes ∧ s' = s ∧
        w.files.write l (.tables t) = .ok fs ∧ w' = { w with files := fs } := by
  rw [setTables] at h
  cases hp : s.place with
  | memory separate old =>
    rw [hp] at h
    cases h
    exact .inl ⟨separate, old, rfl, rfl, rfl⟩
  | bare =>
    rw [hp] at h
    cases h
    exact .inr (.inl ⟨rfl, rfl, rfl⟩)
  | file l number writes =>
    rw [hp] at h
    obtain ⟨_, _, hwrite, hs⟩ := Action.run_bind_eq_ok h
    obtain ⟨fs, hfs, rfl⟩ := Action.run_changeFiles_eq_ok hwrite
    cases hs
    exact .inr (.inr ⟨l, number, writes, fs, rfl, rfl, hfs, rfl⟩)

theorem run_setTables_eq_error {e : Failure} (h : ExceptT.run (s.setTables t) w = (.error e, w')) : w' = w := by
  rw [setTables] at h
  cases hp : s.place with
  | memory separate old =>
    rw [hp] at h
    cases h
  | bare =>
    rw [hp] at h
    cases h
  | file l number writes =>
    rw [hp] at h
    cases hwrite : w.files.write l (.tables t) with
    | ok fs =>
      dsimp only at h
      rw [Action.run_bind_ok (Action.run_changeFiles_ok hwrite)] at h
      cases h
    | error f =>
      dsimp only at h
      rw [Action.run_bind_error (Action.run_changeFiles_error hwrite)] at h
      cases h
      rfl

/-- A transaction changes the tables that there are, and then writes them. -/
theorem run_transact_or (s : DatabaseStore) (change : Tables → Except Failure Tables) (w : World) :
    (∃ e, ExceptT.run (s.transact change) w = (.error e, w)) ∨
      ∃ t t', ExceptT.run s.tables w = (.ok t, w) ∧ change t = .ok t' ∧
        ExceptT.run (s.transact change) w = ExceptT.run (s.setTables t') w := by
  rcases (reads_tables s).run_bind_or _ w with hfail | ⟨t, htables, hrun⟩
  · exact .inl hfail
  rw [transact, hrun]
  rcases (reads_checkWritable s).run_bind_or _ w with hfail | ⟨_, -, hrun⟩
  · exact .inl hfail
  rw [hrun]
  cases hchange : change t with
  | error e => exact .inl ⟨e, rfl⟩
  | ok t' => exact .inr ⟨t, t', htables, hchange, rfl⟩

/-- A transaction that is carried out puts other tables in the place of those that are there. -/
theorem run_transact_eq_ok (h : ExceptT.run (s.transact change) w = (.ok s', w')) :
    ∃ t t', ExceptT.run s.tables w = (.ok t, w) ∧ change t = .ok t' ∧
      ExceptT.run (s.setTables t') w = (.ok s', w') := by
  rcases run_transact_or s change w with ⟨e, he⟩ | ⟨t, t', htables, hchange, hset⟩
  · cases he.symm.trans h
  · exact ⟨t, t', htables, hchange, hset ▸ h⟩

/-- A transaction that fails leaves the world as it was. -/
theorem run_transact_eq_error {e : Failure} (h : ExceptT.run (s.transact change) w = (.error e, w')) :
    w' = w := by
  rcases run_transact_or s change w with ⟨e, he⟩ | ⟨t, t', -, -, hset⟩
  · cases he.symm.trans h
    rfl
  · exact run_setTables_eq_error (hset ▸ h)

/-! ## Rules and records -/

/-- The tables with a record added. -/
def withRecord (t : Tables) (r : Record) : Tables := { t with records := t.records ++ [RecordRow.ofRecord r] }

/-- Rules that are saved are those of the tables that are then written. -/
theorem run_saveRules_eq_ok {rules : List Rule} (h : ExceptT.run (s.saveRules rules) w = (.ok s', w')) :
    ∃ t t' w₁, ExceptT.run s.tables w = (.ok t, w) ∧ t.replaceRules s.maxDepth rules = .ok t' ∧
      ExceptT.run (s.setTables t') w = (.ok s', w₁) ∧ ∃ log, w' = { w₁ with log } := by
  obtain ⟨s₁, w₁, htransact, h⟩ := Action.run_bind_eq_ok h
  obtain ⟨_, _, hlog, h⟩ := Action.run_bind_eq_ok h
  cases hlog
  cases h
  obtain ⟨t, t', htables, hchange, hset⟩ := run_transact_eq_ok htransact
  exact ⟨t, t', w₁, htables, hchange, hset, _, rfl⟩

theorem run_saveRules_eq_error {rules : List Rule} {e : Failure}
    (h : ExceptT.run (s.saveRules rules) w = (.error e, w')) : w' = w := by
  rcases Action.run_bind_eq_error h with htransact | ⟨_, v, -, hlog⟩
  · exact run_transact_eq_error htransact
  · cases hlog

/-- A record is refused, or the tables are written with it. -/
theorem run_append_or (s : DatabaseStore) (r : Record) (w : World) :
    (∃ e, ExceptT.run (s.append r) w = (.error e, w)) ∨
      ∃ t, ExceptT.run s.tables w = (.ok t, w) ∧
        ExceptT.run (s.append r) w = ExceptT.run (s.setTables (withRecord t r)) w := by
  rw [append]
  split
  · exact .inl ⟨_, rfl⟩
  split
  · exact .inl ⟨_, rfl⟩
  rcases (reads_tables s).run_bind_or _ w with hfail | ⟨t, htables, hrun⟩
  · exact .inl hfail
  rw [hrun]
  split
  · exact .inl ⟨_, rfl⟩
  rcases (reads_checkWritable s).run_bind_or _ w with hfail | ⟨_, -, hrun⟩
  · exact .inl hfail
  exact .inr ⟨t, htables, hrun⟩

theorem run_append_eq_ok {r : Record} (h : ExceptT.run (s.append r) w = (.ok s', w')) :
    ∃ t, ExceptT.run s.tables w = (.ok t, w) ∧ ExceptT.run (s.setTables (withRecord t r)) w = (.ok s', w') := by
  rcases run_append_or s r w with ⟨e, he⟩ | ⟨t, htables, hset⟩
  · cases he.symm.trans h
  · exact ⟨t, htables, hset ▸ h⟩

theorem run_append_eq_error {r : Record} {e : Failure} (h : ExceptT.run (s.append r) w = (.error e, w')) :
    w' = w := by
  rcases run_append_or s r w with ⟨e, he⟩ | ⟨t, -, hset⟩
  · cases he.symm.trans h
    rfl
  · exact run_setTables_eq_error (hset ▸ h)

end RuleLabels.DatabaseStore
