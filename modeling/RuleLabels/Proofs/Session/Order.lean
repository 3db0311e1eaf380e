import Mathlib.Tactic.Common
import RuleLabels.Proofs.Session.Backends
import RuleLabels.Proofs.Session.Writes
import RuleLabels.Proofs.Store.Opening

/-!
# Every reachable store can be read

A new store stores orderly rules, and every operation keeps them orderly, whether it succeeds or fails.  So
whatever has been asked of a session, its store gives rules that are orderly, and gives its records: nothing
that the services write makes a store that they cannot read.

* `IsOrderly.step` and `IsOrderly.after`: what one step keeps, and what a run keeps;
* `areOrderly_after`: what the store gives after a run.
-/

namespace RuleLabels

namespace Store

variable {s : Store} {since : Nat} {w : World} {k : Stock}

/-- A store of orderly rules gives orderly rules with the identifiers of those. -/
theorem run_rules_of_stores (h : s.Stores since w.files k) (hk : Rule.AreOrderly k.rules) :
    ∃ rules, ExceptT.run s.rules w = (.ok rules, w) ∧ Rule.AreOrderly rules ∧
      rules.map Rule.id = k.rules.map Rule.id := by
  cases s with
  | memory rules records =>
    obtain ⟨rfl, -⟩ := h
    exact ⟨k.rules, rfl, hk, rfl⟩
  | folder s => exact ⟨k.rules, FolderStore.run_rules h hk, hk, rfl⟩
  | database s => exact ⟨k.rules.map Rule.joined, DatabaseStore.run_rules h hk, hk.joined, List.map_map⟩

/-- A store gives records if it stores any. -/
theorem run_records_of_stores (h : s.Stores since w.files k) :
    ∃ records, ExceptT.run s.records w = (.ok records, w) := by
  cases s with
  | memory rules records => exact ⟨records, rfl⟩
  | folder s => exact ⟨k.records, FolderStore.run_records h⟩
  | database s => exact ⟨k.records.map Record.joined, DatabaseStore.run_records h⟩

end Store

namespace Session

/-- The identifier of each rule that is made in a run is no rule's at that time. -/
def AllFresh (s : Session) : List Step → Prop
  | [] => True
  | t :: rest => t.operation.IsFresh (s.begin t) ∧ AllFresh (s.step t).2 rest

/-- A store that stores orderly rules, in files with numbers from a bound on if it has files. -/
def HasOrder (since : Nat) (store : Store) (w : World) : Prop :=
  ∃ k, store.Stores since w.files k ∧ Rule.AreOrderly k.rules

variable {since : Nat} {s : Session} {t : Step}

theorem HasOrder.of_alike {store : Store} {w w' : World} (h : HasOrder since store w) (hw : w.Alike w') :
    HasOrder since store w' := by
  obtain ⟨k, hstores, hk⟩ := h
  exact ⟨k, hstores.congr hw.entries, hk⟩

/-- The rules that a store with order gives are orderly. -/
theorem HasOrder.run_rules (h : HasOrder since s.store s.world) :
    ∃ rules, (s.run Service.rules).1 = .ok rules ∧ Rule.AreOrderly rules := by
  obtain ⟨k, hstores, hk⟩ := h
  obtain ⟨rules, hrun, horderly, -⟩ := Store.run_rules_of_stores hstores hk
  refine ⟨rules, ?_, horderly⟩
  rw [run_rules_fst, hrun]

theorem HasOrder.run_records (h : HasOrder since s.store s.world) :
    ∃ records, (s.run Service.records).1 = .ok records := by
  obtain ⟨k, hstores, -⟩ := h
  obtain ⟨records, hrun⟩ := Store.run_records_of_stores hstores
  refine ⟨records, ?_⟩
  rw [run_records_fst, hrun]

/-- What an operation writes leaves the store with order. -/
theorem HasOrder.carry {fresh posts : Prop} (hfresh : fresh) (h : HasOrder since s.store s.world) {x : Write}
    (hx : x.KeepsOrder s fresh posts) {store : Store} {v w : World} (hv : s.world.Alike v)
    (hrun : ExceptT.run (x.carry s.store) v = (.ok store, w)) : HasOrder since store w := by
  obtain ⟨k, hstores, hk⟩ := h.of_alike hv
  cases x with
  | rules rules =>
    obtain ⟨current, hcurrent, horderly⟩ := h.run_rules
    exact ⟨_, (Store.stores_of_saveRules hstores hrun).1, hx current hcurrent horderly hfresh⟩
  | record r => exact ⟨_, (Store.stores_of_append hstores hrun).1, hk⟩

/-- A step leaves the store with order, whether its operation succeeds or fails. -/
theorem HasOrder.step (h : HasOrder since s.store s.world) (hfresh : t.operation.IsFresh (s.begin t)) :
    HasOrder since (s.step t).2.store (s.step t).2.world := by
  have hbegin : HasOrder since (s.begin t).store (s.begin t).world := h
  refine (does_perform (s.begin t) t.operation).keeps hbegin rfl (fun _ _ _ hinv => hinv.of_alike) ?_
  exact fun _ _ _ _ hx hv _ => hbegin.carry hfresh hx hv

/-- A run leaves the store with order. -/
theorem HasOrder.after (h : HasOrder since s.store s.world) {steps : List Step} (hfresh : s.AllFresh steps) :
    HasOrder since (s.after steps).store (s.after steps).world := by
  induction steps generalizing s with
  | nil => exact h
  | cons t rest ih => exact ih (h.step hfresh.1) hfresh.2

variable {limits : Json.Limits} {seed : Bool} {place : Store.Place} {w : World}

/-- A new store has order, seeded or not. -/
theorem HasOrder.of_openAt (h : openAt? limits seed place w = some s)
    (hnew : s.store.isNew w.files.next s.world.files = true) :
    HasOrder w.files.next s.store s.world := by
  rw [openAt?] at h
  split at h
  · rename_i store world hopen
    cases h
    exact ⟨_, (Store.stores_of_openAt hopen hnew).1, (Stock.isSound_initial seed w.now).orderly⟩
  · cases h

/-- **Every reachable store can be read.**  After any run of operations on a new store, in memory, in a folder
or in a database, in which rules are made with new identifiers, the store gives its records, and rules that
are orderly: valid, and with different identifiers. -/
theorem areOrderly_after (h : openAt? limits seed place w = some s)
    (hnew : s.store.isNew w.files.next s.world.files = true) {steps : List Step}
    (hfresh : s.AllFresh steps) :
    ∃ rules records, ((s.after steps).run Service.rules).1 = .ok rules ∧ Rule.AreOrderly rules ∧
      ((s.after steps).run Service.records).1 = .ok records := by
  have hafter := (HasOrder.of_openAt h hnew).after hfresh
  obtain ⟨rules, hrules, horderly⟩ := hafter.run_rules
  obtain ⟨records, hrecords⟩ := hafter.run_records
  exact ⟨rules, records, hrules, horderly, hrecords⟩

/-- A rule is made, a payload is processed, and the rule is to be switched on by what is no truth value. -/
def createSteps : List Step := [
  ⟨.epoch, ⟨1, 0⟩, .create [("name", .text "Adults"), ("label", .text "adult"),
    ("conditions", .object [("key", .text "age"), ("operator", .text ">="), ("value", .int 18)])]⟩,
  ⟨.epoch, ⟨2, 0⟩, .process (.object [("age", .int 42)])⟩,
  ⟨.epoch, ⟨3, 0⟩, .toggle "rule-0000010000000000000000000000000" (.text "on")⟩]

theorem areOrderly_after_createSteps :
    ∃ s rules records, openAt? .unbounded false (.folder ⟨"", ["data"]⟩) bareWorld = some s ∧
      s.store.isNew bareWorld.files.next s.world.files = true ∧ s.AllFresh createSteps ∧
      ((s.after createSteps).run Service.rules).1 = .ok rules ∧ Rule.AreOrderly rules ∧
      ((s.after createSteps).run Service.records).1 = .ok records := by
  have hempty : (openAt? .unbounded false (.folder ⟨"", ["data"]⟩) bareWorld).any (fun s =>
      s.store.isNew bareWorld.files.next s.world.files &&
        passes List.isEmpty ((s.begin ⟨.epoch, ⟨1, 0⟩, .list⟩).run Service.rules).1) = true := by
    decide +kernel
  obtain ⟨s, hs, hnew⟩ := (Option.any_eq_true _ _).1 hempty
  rw [Bool.and_eq_true] at hnew
  have hfresh : s.AllFresh createSteps := by
    refine ⟨fun rules hrules => ?_, trivial, trivial, trivial⟩
    have := of_passes hnew.2 rules hrules
    rw [List.isEmpty_iff.1 this]
    exact List.not_mem_nil
  obtain ⟨rules, records, hafter⟩ := areOrderly_after hs hnew.1 hfresh
  exact ⟨s, rules, records, hs, hnew.1, hfresh, hafter⟩

end Session

end RuleLabels
