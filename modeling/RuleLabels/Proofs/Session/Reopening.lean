import Mathlib.Tactic.Common
import RuleLabels.Proofs.Session.Backends
import RuleLabels.Proofs.Session.Writes
import RuleLabels.Proofs.Store.Reopening

/-!
# Reopened sessions

A session with a persistent store may be dropped after any step, and its store opened again: the session is
the same, and so a run shows the same whether the store is opened once or anew before every step.  What is
excepted is a database that is to be seeded and from which all rules are gone: opening it brings the default
rules back.

* `isReady_after`: nothing is missing of a persistent store, whatever has been asked of it;
* `reopen?_after`: how a session is reopened after a run;
* `rules_come_back`: a database in which deleted rules come back.
-/

namespace RuleLabels

namespace Session

/-! ## Opening again -/

/-- The store is a database that is to be seeded and gives no rules. -/
def AwaitsRules (seed : Bool) (s : Session) : Prop :=
  seed = true ∧ s.store.isDatabase = true ∧ (s.run Service.rules).1 = .ok []

/-- The session whose store is dropped, and opened again at a place, unless it cannot be opened. -/
def reopen? (limits : Json.Limits) (seed : Bool) (place : Store.Place) (s : Session) : Option Session :=
  openAt? limits seed place s.world

/-- What steps show if a store is opened at a place anew before each of them, unless it cannot be opened. -/
def traceAfresh? (limits : Json.Limits) (seed : Bool) (place : Store.Place) (w : World) :
    List Step → Option (List Observation)
  | [] => some []
  | t :: rest => do
    let s ← openAt? limits seed place { w with now := t.now, ids := t.ids }
    let shown ← traceAfresh? limits seed place (s.step t).2.world rest
    return (s.step t).1 :: shown

variable {limits : Json.Limits} {seed : Bool} {place : Store.Place} {w : World} {s again : Session} {t : Step}

theorem awaitsRules_iff : s.AwaitsRules seed ↔ seed = true ∧ s.store.IsBare s.world := by
  rw [AwaitsRules, run_rules_fst]
  refine and_congr_right fun _ => ?_
  obtain ⟨store, world⟩ := s
  cases store with
  | memory rules records => exact ⟨fun h => (nomatch h.1), fun h => h.elim⟩
  | folder d => exact ⟨fun h => (nomatch h.1), fun h => h.elim⟩
  | database d => exact ⟨fun h => h.2, fun h => ⟨rfl, h⟩⟩

/-! ## Nothing is missing -/

/-- The clock and the supply of ids are not part of a store. -/
theorem isReady_begin (h : s.store.IsReady limits place s.world) (t : Step) :
    (s.begin t).store.IsReady limits place (s.begin t).world := h

/-- After a step nothing is missing of a store, whether the operation succeeds or fails. -/
theorem isReady_step (h : s.store.IsReady limits place s.world) (t : Step) :
    (s.step t).2.store.IsReady limits place (s.step t).2.world := by
  refine (does_perform (s.begin t) t.operation).keeps (isReady_begin h t) rfl ?_ ?_
  · intro store v w hready halike
    exact hready.of_entries halike.entries
  · intro x store v w _ _ hready hrun
    cases x with
    | rules rules => exact hready.saveRules hrun
    | record r => exact hready.append hrun

/-- After a run nothing is missing of a store. -/
theorem isReady_after (h : s.store.IsReady limits place s.world) (steps : List Step) :
    (s.after steps).store.IsReady limits place (s.after steps).world := by
  induction steps generalizing s with
  | nil => exact h
  | cons t rest ih => exact ih (isReady_step h t)

/-- A session of whose store nothing is missing is reopened as it is, unless it awaits rules. -/
theorem reopen?_of_isReady (h : s.store.IsReady limits place s.world)
    (hseed : ¬ s.AwaitsRules seed) : s.reopen? limits seed place = some s := by
  have hopen := h.run_openAt fun hyes hbare => hseed (awaitsRules_iff.2 ⟨hyes, hbare⟩)
  rw [reopen?, openAt?, hopen]

/-- Only a database awaits rules. -/
theorem not_awaitsRules_of_isReady (h : s.store.IsReady limits place s.world)
    (hplace : place.isDatabase = false) : ¬ s.AwaitsRules seed := by
  rintro ⟨-, hdatabase, -⟩
  rw [h.isDatabase_eq, hplace] at hdatabase
  cases hdatabase

/-- A session that awaits rules is reopened with the default rules, and with the records that it had. -/
theorem rules_of_reopen? (h : s.store.IsReady limits place s.world) (hseed : s.AwaitsRules seed)
    (hopen : s.reopen? limits seed place = some again) :
    (again.run Service.rules).1 = .ok (Rule.defaults s.world.now) ∧
      (again.run Service.records).1 = (s.run Service.records).1 := by
  obtain ⟨rfl, hbare⟩ := awaitsRules_iff.1 hseed
  rw [run_rules_fst, run_records_fst, run_records_fst]
  exact h.seeded hbare (run_of_openAt? hopen)

/-- A session that awaits rules at the beginning of a step awaits them before. -/
theorem awaitsRules_of_begin (h : s.store.IsReady limits place s.world)
    (hbegin : (s.begin t).AwaitsRules seed) : s.AwaitsRules seed := by
  obtain ⟨hseed, hbare⟩ := awaitsRules_iff.1 hbegin
  exact awaitsRules_iff.2 ⟨hseed, h.isBare_of_files hbare rfl⟩

/-- A run that never awaits rules shows the same if the store is opened anew before every step. -/
theorem traceAfresh?_of_isReady (h : s.store.IsReady limits place s.world) {steps : List Step}
    (hseed : ∀ before, before <+: steps → ¬ (s.after before).AwaitsRules seed) :
    traceAfresh? limits seed place s.world steps = some (s.trace steps) := by
  induction steps generalizing s with
  | nil => rfl
  | cons t rest ih =>
    have hnow : ¬ (s.begin t).AwaitsRules seed := fun hbegin =>
      hseed [] List.nil_prefix (awaitsRules_of_begin h hbegin)
    have hopen : openAt? limits seed place { s.world with now := t.now, ids := t.ids } = some (s.begin t) :=
      reopen?_of_isReady (isReady_begin h t) hnow
    have hrest := ih (isReady_step h t) fun before hbefore =>
      hseed (t :: before) (List.cons_prefix_cons.2 ⟨rfl, hbefore⟩)
    have hstep : (s.begin t).step t = s.step t := rfl
    rw [traceAfresh?, hopen, trace]
    simp only [Option.bind_eq_bind, Option.bind_some, hstep, hrest]
    rfl

/-- **How a session is reopened.**  After any run of operations on a persistent store, at any time, the session
is reopened as it is, unless the store is a database that is to be seeded and gives no rules: that is reopened,
if at all, with the default rules, and with the records that it had.  A run in which no database awaits rules
shows the same if the store is opened anew before every step. -/
theorem reopen?_after (h : openAt? limits seed place w = some s) (hp : s.store.isPersistent = true)
    (steps : List Step) (t : Step) :
    (¬ ((s.after steps).begin t).AwaitsRules seed →
      ((s.after steps).begin t).reopen? limits seed place = some ((s.after steps).begin t)) ∧
    (((s.after steps).begin t).AwaitsRules seed →
      ∀ again, ((s.after steps).begin t).reopen? limits seed place = some again →
        (again.run Service.rules).1 = .ok (Rule.defaults t.now) ∧
          (again.run Service.records).1 = (((s.after steps).begin t).run Service.records).1) ∧
    ((∀ before, before <+: steps → ¬ (s.after before).AwaitsRules seed) →
      traceAfresh? limits seed place s.world steps = some (s.trace steps)) := by
  have hready := Store.isReady_of_openAt (run_of_openAt? h) hp
  have hafter := isReady_begin (isReady_after hready steps) t
  refine ⟨reopen?_of_isReady hafter, ?_, traceAfresh?_of_isReady hready⟩
  intro hseed again hopen
  exact rules_of_reopen? hafter hseed hopen

/-- The default rules are deleted one after another, and then a payload is processed. -/
def emptying : List Step :=
  ["rule-1", "rule-2", "rule-3"].map (fun id => ⟨.epoch, ⟨0, 0⟩, .delete id⟩) ++
    [⟨.epoch, ⟨3, 0⟩, .process (.object [("CompanyName", .text "Google")])⟩]

/-- In a folder that was seeded, the deleted rules stay deleted. -/
theorem reopen?_after_emptying :
    ∃ s, openAt? .unbounded true (.folder ⟨"", ["data"]⟩) bareWorld = some s ∧ s.store.isPersistent = true ∧
      ∀ t, ((s.after emptying).begin t).reopen? .unbounded true (.folder ⟨"", ["data"]⟩) =
        some ((s.after emptying).begin t) := by
  have hopens : (openAt? .unbounded true (.folder ⟨"", ["data"]⟩) bareWorld).any fun s =>
      s.store.isPersistent := by
    decide +kernel
  obtain ⟨s, hs, hp⟩ := (Option.any_eq_true _ _).1 hopens
  have hready := isReady_after (Store.isReady_of_openAt (run_of_openAt? hs) hp) emptying
  exact ⟨s, hs, hp, fun t => (reopen?_after hs hp emptying t).1
    (not_awaitsRules_of_isReady (isReady_begin hready t) rfl)⟩

/-! ## A database in which deleted rules come back -/

/-- A database that holds no rules can be reopened to be seeded. -/
theorem exists_reopen?_of_holds {url : String} {since : Nat} {k : Stock}
    (h : s.store.IsReady .unbounded (.database url) s.world) (hholds : s.store.Holds since s.world.files k)
    (hk : k.IsSound) (hempty : k.rules = []) :
    ∃ again, s.reopen? .unbounded true (.database url) = some again := by
  obtain ⟨store, world⟩ := s
  cases store with
  | memory rules records => exact h.elim
  | folder d => cases h.1
  | database d =>
    obtain ⟨hplace, hdepth, l, number, tables, hready⟩ := h
    cases hplace
    obtain ⟨d', w', hopen, -⟩ :=
      DatabaseStore.run_openAt_seeded (hdepth ▸ hready.run_openTables) hholds hk hempty
    refine ⟨⟨.database d', w'⟩, ?_⟩
    have hrun : ExceptT.run (Store.openAt .unbounded true (.database d.url)) world = (.ok (.database d'), w') :=
      Action.run_bind_ok hopen
    rw [reopen?, openAt?, hrun]

theorem suits_emptying : (inMemory true bareWorld).Suits emptying := by
  refine ⟨trivial, trivial, trivial, ⟨fun records h => ?_, by decide⟩, trivial⟩
  have hempty := of_passes (p := List.isEmpty) (by decide +kernel) records h
  rw [List.isEmpty_iff.1 hempty]
  exact List.not_mem_nil

/-- The address of a database in a file. -/
def labelsUrl : String := "sqlite:///labels.db"

/-- The default rules are deleted from a database, which then gives one record and no rules; and when it is
reopened, it gives the default rules. -/
theorem rules_come_back :
    ∃ s again, openAt? .unbounded true (.database labelsUrl) bareWorld = some s ∧
      s.store.isPersistent = true ∧ ((s.after emptying).run Service.rules).1 = .ok [] ∧
      (∃ r, ((s.after emptying).run Service.records).1 = .ok [r]) ∧
      (s.after emptying).reopen? .unbounded true (.database labelsUrl) = some again ∧
      (again.run Service.rules).1 = .ok (Rule.defaults .epoch) := by
  have hopens : (openAt? .unbounded true (.database labelsUrl) bareWorld).any (fun s =>
      s.store.isNew 0 s.world.files && s.store.isPersistent) = true := by
    decide +kernel
  obtain ⟨s, hs, hnew⟩ := (Option.any_eq_true _ _).1 hopens
  rw [Bool.and_eq_true] at hnew
  have hopened : IsOpened bareWorld true (.database labelsUrl) (loaded emptying) s :=
    ⟨hs, hnew.1, fun _ hl => nomatch hl⟩
  obtain ⟨k, hafter⟩ := hopened.twins.after (fun _ hl => hl) suits_emptying
  -- What the database holds is computed in memory.
  have hempty : k.rules = [] := by
    have hmemory : passes List.isEmpty
        (((inMemory true bareWorld).after emptying).run Service.rules).1 = true := by
      decide +kernel
    exact List.isEmpty_iff.1 (of_passes hmemory k.rules (congrArg Prod.fst hafter.run_rules.1))
  have hone : ∃ r, k.records = [r] := by
    have hmemory : passes (fun records => decide (records.length = 1))
        (((inMemory true bareWorld).after emptying).run Service.records).1 = true := by
      decide +kernel
    have hlength := of_passes hmemory k.records (congrArg Prod.fst hafter.run_records.1)
    exact List.length_eq_one_iff.1 (of_decide_eq_true hlength)
  have hnow : (s.after emptying).world.now = .epoch := hafter.now.trans (by decide +kernel)
  have hready := isReady_after (Store.isReady_of_openAt (run_of_openAt? hs) hnew.2) emptying
  have hrules : ((s.after emptying).run Service.rules).1 = .ok [] := by
    rw [hafter.run_rules.2, hempty]
  have hrecords : ∃ r, ((s.after emptying).run Service.records).1 = .ok [r] := by
    obtain ⟨r, hr⟩ := hone
    exact ⟨r, by rw [hafter.run_records.2, hr]⟩
  obtain ⟨again, hagain⟩ := exists_reopen?_of_holds hready hafter.holds hafter.sound hempty
  have hawaits : (s.after emptying).AwaitsRules true := ⟨rfl, hready.isDatabase_eq, hrules⟩
  have hback := (rules_of_reopen? hready hawaits hagain).1
  rw [hnow] at hback
  exact ⟨s, again, hs, hnew.2, hrules, hrecords, hagain, hback⟩

end Session

end RuleLabels
