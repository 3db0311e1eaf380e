import Mathlib.Tactic.Common
import RuleLabels.Proofs.Rule.Loading
import RuleLabels.Proofs.Session.Agreement
import RuleLabels.Proofs.Store.Failing
import RuleLabels.Proofs.Race.Calls

/-!
# The log makes no difference

Two calls that run at once send their messages to one log.  No action that a call consists of looks at the
log: in worlds that differ in their logs alone it has one outcome, and leaves worlds that differ in their
logs alone.
-/

namespace RuleLabels

/-! ## Actions -/

/-- An action has one outcome with every log, and leaves all but the log the same. -/
def Action.IgnoresLog {α : Type} (x : Action α) : Prop :=
  ∀ (w : World) (log : Log), ∃ log',
    ExceptT.run x { w with log } = ((ExceptT.run x w).1, { (ExceptT.run x w).2 with log := log' })

namespace Action.IgnoresLog

variable {α β : Type} {x : Action α} {f : α → Action β}

theorem pure (a : α) : (Pure.pure a : Action α).IgnoresLog := fun _ log => ⟨log, rfl⟩

theorem throw (e : Failure) : (MonadExcept.throw e : Action α).IgnoresLog := fun _ log => ⟨log, rfl⟩

theorem freshId : Action.freshId.IgnoresLog := fun _ log => ⟨log, rfl⟩

theorem log (level : Level) (sender message : String) : (Action.log level sender message).IgnoresLog :=
  fun _ _ => ⟨_, rfl⟩

theorem discard (draft : FileKey) : (Action.discard draft).IgnoresLog := fun _ log => ⟨log, rfl⟩

theorem of_reads (h : x.Reads) : x.IgnoresLog := by
  intro w log
  refine ⟨log, ?_⟩
  rw [h.run { w with log }, h.outcome (.log w log), h.world w]

theorem bind (hx : x.IgnoresLog) (hf : ∀ a, (f a).IgnoresLog) : (x >>= f).IgnoresLog := by
  intro w log
  obtain ⟨log₁, hrun⟩ := hx w log
  rw [Action.run_bind, Action.run_bind, hrun]
  rcases ExceptT.run x w with ⟨e | a, v⟩
  · exact ⟨log₁, rfl⟩
  · exact hf a v log₁

theorem tryCatch {g : Failure → Action α} (hx : x.IgnoresLog) (hg : ∀ e, (g e).IgnoresLog) :
    (MonadExcept.tryCatch x g).IgnoresLog := by
  intro w log
  obtain ⟨log₁, hrun⟩ := hx w log
  rw [Action.run_tryCatch, Action.run_tryCatch, hrun]
  rcases ExceptT.run x w with ⟨e | a, v⟩
  · exact hg e v log₁
  · exact ⟨log₁, rfl⟩

theorem changeFiles (f : Files → Except FileError Files) : (Action.changeFiles f).IgnoresLog := by
  intro w log
  refine ⟨log, ?_⟩
  cases h : f w.files with
  | ok fs => rw [run_changeFiles_ok (w := { w with log }) h, run_changeFiles_ok h]
  | error e => rw [run_changeFiles_error (w := { w with log }) h, run_changeFiles_error h]

theorem makeDraft (l : Location) : (Action.makeDraft l).IgnoresLog := by
  intro w log
  refine ⟨log, ?_⟩
  rw [Action.makeDraft, run_bind_ok (run_get _), run_bind_ok (run_get _)]
  dsimp only
  cases w.files.makeDraft l with
  | ok p => rfl
  | error e => rfl

end Action.IgnoresLog

/-! ## Stores -/

theorem FolderStore.ignoresLog_saveRules (s : FolderStore) (rules : List Rule) :
    (s.saveRules rules).IgnoresLog := by
  refine .bind (.bind (.makeDraft _) fun draft => .tryCatch (.bind ?_ fun _ => .changeFiles _) fun e => ?_)
    fun _ => .log _ _ _
  · rw [fill]
    split
    · exact .throw _
    · exact .changeFiles _
  · exact .bind (.discard draft) fun _ => .throw e

theorem DatabaseStore.ignoresLog_setTables (s : DatabaseStore) (t : Tables) : (s.setTables t).IgnoresLog := by
  rw [setTables]
  cases s.place with
  | memory separate old => exact .pure _
  | bare => exact .pure _
  | file l number writes => exact .bind (.changeFiles _) fun _ => .pure _

theorem DatabaseStore.ignoresLog_saveRules (s : DatabaseStore) (rules : List Rule) :
    (s.saveRules rules).IgnoresLog := by
  have htransact : (s.transact (Tables.replaceRules s.maxDepth rules)).IgnoresLog := by
    refine .bind (.of_reads s.reads_tables) fun t => .bind (.of_reads s.reads_checkWritable) fun _ => ?_
    split
    · exact .throw _
    · exact ignoresLog_setTables s _
  exact .bind htransact fun s' => .bind (.log _ _ _) fun _ => .pure s'

theorem Store.ignoresLog_saveRules (s : Store) (rules : List Rule) : (s.saveRules rules).IgnoresLog := by
  cases s with
  | memory old records => exact .pure _
  | folder s => exact .bind (s.ignoresLog_saveRules rules) fun _ => .pure _
  | database s => exact .bind (s.ignoresLog_saveRules rules) fun _ => .pure _

theorem Rule.ignoresLog_load (l : Location) : (load l).IgnoresLog := by
  intro w log
  obtain ⟨r, ids, -, hload⟩ := run_load l (w.files.find l) w.now w.ids
  refine ⟨log, ?_⟩
  rw [hload { w with log } rfl rfl rfl, hload w rfl rfl rfl]

/-! ## Services -/

/-- A session with another log. -/
def Session.withLog (s : Session) (log : Log) : Session := { s with world := { s.world with log } }

namespace Service

/-- A service has one outcome with every log, and leaves all but the log the same. -/
def IgnoresLog {α : Type} (x : Service α) : Prop :=
  ∀ (s : Session) (log : Log), ∃ log', (s.withLog log).run x = ((s.run x).1, (s.run x).2.withLog log')

variable {α β : Type}

theorem IgnoresLog.bind {x : Service α} {f : α → Service β} (hx : IgnoresLog x)
    (hf : ∀ a, IgnoresLog (f a)) : IgnoresLog (x >>= f) := by
  intro s log
  obtain ⟨log₁, hrun⟩ := hx s log
  rw [Session.run_bind, Session.run_bind, hrun]
  rcases s.run x with ⟨e | a, t⟩
  · exact ⟨log₁, rfl⟩
  · exact hf a t log₁

theorem IgnoresLog.lift {x : Action α} (hx : x.IgnoresLog) : IgnoresLog (liftM x) := by
  intro s log
  obtain ⟨log₁, hrun⟩ := hx s.world log
  exact ⟨log₁, Session.run_lift (s := s.withLog log) hrun⟩

theorem IgnoresLog.pure (a : α) : IgnoresLog (Pure.pure a) := fun _ log => ⟨log, rfl⟩

theorem IgnoresLog.throw (e : Failure) : IgnoresLog (MonadExcept.throw e : Service α) := fun _ log => ⟨log, rfl⟩

theorem ignoresLog_rules : IgnoresLog rules := fun s => IgnoresLog.lift (.of_reads s.store.reads_rules) s

theorem ignoresLog_rule (id : String) : IgnoresLog (rule id) := by
  refine ignoresLog_rules.bind fun current => ?_
  split
  · exact .pure _
  · exact .throw _

theorem ignoresLog_saveRules (rules : List Rule) : IgnoresLog (saveRules rules) := by
  have hstore : IgnoresLog store := fun _ log => ⟨log, rfl⟩
  have hset (s : Store) : IgnoresLog (setStore s) := fun _ log => ⟨log, rfl⟩
  exact hstore.bind fun s => .bind (.lift (s.ignoresLog_saveRules rules)) hset

end Service

open Service in
/-- A call ignores the log. -/
theorem Call.ignoresLog_perform (c : Call) : IgnoresLog c.perform := by
  induction c with
  | fail e => exact .throw e
  | now next ih => exact .bind (.lift (.of_reads .now)) ih
  | ruleId next ih => exact .bind (.lift (.bind .freshId fun _ => .pure _)) ih
  | load l next ih => exact .bind (.lift (Rule.ignoresLog_load l)) ih
  | seek id next ih => exact .bind (ignoresLog_rule id) fun _ => ih
  | read next ih => exact .bind ignoresLog_rules ih
  | save rules message a =>
    exact .bind (ignoresLog_saveRules rules) fun _ => .bind (.lift (.log _ _ _)) fun _ => .pure a

theorem Task.ignoresLog_finish (t : Task) : Service.IgnoresLog t.finish := by
  cases t with
  | running c hasRead => exact c.ignoresLog_perform
  | ended outcome =>
    cases outcome with
    | ok a => exact .pure a
    | error e => exact .throw e

end RuleLabels
