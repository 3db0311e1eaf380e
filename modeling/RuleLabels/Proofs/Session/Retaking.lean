import Mathlib.Tactic.Common
import RuleLabels.Proofs.Session.Order
import RuleLabels.Proofs.Store.Accepting

/-!
# Every reachable store would take its rules again

A new store can be written, and accepts the rules that it begins with, as it has taken them.  What it takes later
it accepts as well, and a record that is added changes nothing about this.  So whatever has been asked of a session,
its store can be written, and accepts each of the rules that it gives.

* `Store.Retakes`: a store would take the rules again that it stores;
* `Store.retakes_of_openAt`: a new store does;
* `Store.Retakes.saveRules` and `Store.Retakes.append`: it still does when it has taken something;
* `retakes_after`: what holds after a run.
-/

namespace RuleLabels

open Rule

/-! ## Stores that can be written again -/

namespace Store

variable {s s' : Store} {since : Nat} {fs : Files} {w w' : World} {k : Stock}

/-- The depth of documents leaves room for a list, if the rules of a store are in a file. -/
def HasRoom (s : Store) : Prop :=
  match s with
  | folder s => (Json.Purpose.file s.maxDepth).isFull 0 = false
  | _ => True

theorem IsWritable.hasRoom (h : s.IsWritable fs) : s.HasRoom := by
  cases s with
  | memory rules records => trivial
  | folder s => exact h.1
  | database s => trivial

/-- A store whose files are there can be written, if they may hold a list. -/
theorem Stores.isWritable (h : s.Stores since fs k) (hroom : s.HasRoom) : s.IsWritable fs := by
  cases s with
  | memory rules records => trivial
  | folder s =>
    obtain ⟨n, m, -, -, -, hrules, -⟩ := h
    obtain ⟨key, hkey, hentry⟩ := Files.find_eq_ok_iff.1 hrules
    exact ⟨hroom, key, hkey, by simp [hentry]⟩
  | database s =>
    obtain ⟨url, place, maxDepth⟩ := s
    cases place with
    | memory separate t => exact ⟨rfl, k.tables, h⟩
    | bare => exact h.elim
    | file l number writes =>
      obtain ⟨hwrites, -, hfind⟩ := h
      exact ⟨hwrites, k.tables, hfind⟩

/-- A record that is added changes nothing about which rules a store accepts. -/
theorem accepts_of_append {r : Record} (h : ExceptT.run (s.append r) w = (.ok s', w')) :
    s'.Accepts = s.Accepts ∧ (s.HasRoom → s'.HasRoom) := by
  cases s with
  | memory rules records =>
    cases h
    exact ⟨rfl, id⟩
  | folder s =>
    obtain ⟨_, _, -, hstore⟩ := Action.run_bind_eq_ok h
    cases hstore
    exact ⟨rfl, id⟩
  | database s =>
    obtain ⟨s₁, _, happend, hstore⟩ := Action.run_bind_eq_ok h
    cases hstore
    obtain ⟨t, -, hset⟩ := DatabaseStore.run_append_eq_ok happend
    obtain ⟨-, hdepth⟩ := DatabaseStore.writes_of_setTables hset
    refine ⟨?_, id⟩
    funext r
    simp only [Accepts, hdepth]

/-- A store stores orderly rules, all of which it accepts, and its files may hold a list. -/
structure Retakes (s : Store) (since : Nat) (fs : Files) (k : Stock) : Prop where
  stores : s.Stores since fs k
  orderly : AreOrderly k.rules
  room : s.HasRoom
  accepts : ∀ r ∈ k.rules, s.Accepts r

namespace Retakes

theorem of_alike (h : s.Retakes since w.files k) (hw : w.Alike w') : s.Retakes since w'.files k :=
  ⟨h.stores.congr hw.entries, h.orderly, h.room, h.accepts⟩

/-- What a store takes, it would take again. -/
theorem saveRules {rules : List Rule} (h : s.Retakes since w.files k) (hrules : AreOrderly rules)
    (hsave : ExceptT.run (s.saveRules rules) w = (.ok s', w')) :
    s'.Retakes since w'.files ⟨rules, k.records⟩ := by
  obtain ⟨-, haccepts⟩ := (takes_iff hrules.distinct).1 ⟨s', w', hsave⟩
  obtain ⟨hwritable, hsame, -⟩ := isWritable_of_saveRules hsave
  exact ⟨(stores_of_saveRules h.stores hsave).1, hrules, hwritable.hasRoom, hsame ▸ haccepts⟩

theorem append {r : Record} (h : s.Retakes since w.files k) (happend : ExceptT.run (s.append r) w = (.ok s', w')) :
    s'.Retakes since w'.files ⟨k.rules, k.records ++ [r]⟩ := by
  obtain ⟨hsame, hroom⟩ := accepts_of_append happend
  exact ⟨(stores_of_append h.stores happend).1, h.orderly, hroom h.room, hsame ▸ h.accepts⟩

/-- A store gives what it would take again, as it keeps it. -/
theorem run_rules (h : s.Retakes since w.files k) : ExceptT.run s.rules w = (.ok (k.rules.map s.keep), w) := by
  cases s with
  | memory rules records =>
    obtain ⟨⟨rfl, -⟩, -⟩ := h
    have hkeep : k.rules.map (keep (memory k.rules records)) = k.rules := List.map_id _
    rw [hkeep]
    rfl
  | folder s =>
    have hkeep : k.rules.map (keep (folder s)) = k.rules := List.map_id _
    rw [hkeep]
    exact FolderStore.run_rules h.stores h.orderly
  | database s => exact DatabaseStore.run_rules h.stores h.orderly

theorem areOrderly_map_keep (h : s.Retakes since fs k) : AreOrderly (k.rules.map s.keep) := by
  cases s with
  | memory rules records => exact (List.map_id k.rules).symm ▸ h.orderly
  | folder s => exact (List.map_id k.rules).symm ▸ h.orderly
  | database s => exact h.orderly.joined

/-- A store can be written again with what it gives. -/
theorem isWritable (h : s.Retakes since fs k) : s.IsWritable fs := h.stores.isWritable h.room

theorem accepts_map_keep (h : s.Retakes since fs k) : ∀ r ∈ k.rules.map s.keep, s.Accepts r := by
  intro r hr
  obtain ⟨r', hr', rfl⟩ := List.mem_map.1 hr
  exact ((suits_of_areOrderly s h.orderly).accepts_keep hr').2 (h.accepts r' hr')

end Retakes

end Store

/-! ## New stores -/

/-- A folder that is made ready has taken the rules that it begins with. -/
theorem FolderStore.accepts_of_prepare {s : FolderStore} {seed : Bool} {w w' : World}
    (h : ExceptT.run (s.prepare seed) w = (.ok (), w'))
    (hnew : (Store.folder s).isNew w.files.next w'.files = true) :
    (Store.folder s).HasRoom ∧ ∀ r ∈ (Stock.initial seed w.now).rules, (Store.folder s).Accepts r := by
  rw [Store.isNew, Bool.and_eq_true] at hnew
  obtain ⟨w₁, w₂, hopens, -, -, hmake, -⟩ := run_prepare_eq_ok h hnew.1
  rw [makeRules, Action.run_bind_ok (Action.run_now w₁)] at hmake
  obtain ⟨_, _, hwrite, -⟩ := Action.run_bind_eq_ok hmake
  rw [hopens.now] at hwrite
  exact refusal?_rulesDocument_eq_none_iff.1 (refusal?_of_run_writeDocument hwrite)

/-- A new database has taken the rules that it begins with, if there are any. -/
theorem DatabaseStore.accepts_of_openAt {s : DatabaseStore} {url : String} {maxDepth : Option Nat} {seed : Bool}
    {w w' : World} (h : ExceptT.run (openAt url maxDepth seed) w = (.ok s, w'))
    (hnew : (Store.database s).isNew w.files.next w'.files = true) :
    ∀ r ∈ (Stock.initial seed w.now).rules, (Store.database s).Accepts r := by
  obtain ⟨s₁, w₁, t, hopen, htables, ⟨rfl, w₂, log, hsave, rfl⟩ | ⟨hfull, rfl, rfl⟩⟩ := run_openAt_eq_ok h
  · have hnew₁ : (Store.database s₁).isNew w.files.next w₁.files = true := by
      rw [isNew_eq, ← (staysAt_of_saveRules hsave).file, ← isNew_eq _ _ w₂.files]
      exact hnew
    obtain ⟨-, hopens⟩ := stores_of_openTables hopen hnew₁
    rw [hopens.now] at hsave
    have hdistinct := (Stock.isSound_initial true w.now).orderly.distinct
    obtain ⟨-, haccepts⟩ := (takes_iff hdistinct).1 ⟨s, w₂, hsave⟩
    intro r hr
    have haccepted := haccepts r hr
    simp only [Store.Accepts, (staysAt_of_saveRules hsave).maxDepth] at haccepted ⊢
    exact haccepted
  · obtain ⟨hstores, -⟩ := stores_of_openTables hopen hnew
    cases (run_tables hstores).symm.trans htables
    cases seed with
    | false => exact fun _ hr => absurd hr List.not_mem_nil
    | true => exact absurd rfl (hfull rfl)

/-- A new store would take again what it begins with. -/
theorem Store.retakes_of_openAt {s : Store} {limits : Json.Limits} {place : Place} {seed : Bool} {w w' : World}
    (h : ExceptT.run (openAt limits seed place) w = (.ok s, w')) (hnew : s.isNew w.files.next w'.files = true) :
    s.Retakes w.files.next w'.files (Stock.initial seed w.now) := by
  have horderly := (Stock.isSound_initial seed w.now).orderly
  obtain ⟨hstores, -⟩ := stores_of_openAt h hnew
  cases place with
  | memory =>
    cases h
    exact ⟨hstores, horderly, trivial, fun _ _ => trivial⟩
  | folder l =>
    obtain ⟨_, _, hprepare, hs⟩ := Action.run_bind_eq_ok h
    cases hs
    obtain ⟨hroom, haccepts⟩ := FolderStore.accepts_of_prepare hprepare hnew
    exact ⟨hstores, horderly, hroom, haccepts⟩
  | database url =>
    obtain ⟨_, _, hopen, hs⟩ := Action.run_bind_eq_ok h
    cases hs
    exact ⟨hstores, horderly, trivial, DatabaseStore.accepts_of_openAt hopen hnew⟩

/-! ## Runs -/

namespace Session

/-- A store would take the rules again that it stores, whatever they are. -/
def Retakes (since : Nat) (store : Store) (w : World) : Prop := ∃ k, store.Retakes since w.files k

variable {since : Nat} {s : Session} {t : Step}

theorem Retakes.of_alike {store : Store} {w w' : World} (h : Retakes since store w) (hw : w.Alike w') :
    Retakes since store w' := by
  obtain ⟨k, hk⟩ := h
  exact ⟨k, hk.of_alike hw⟩

theorem Retakes.hasOrder {store : Store} {w : World} (h : Retakes since store w) : HasOrder since store w := by
  obtain ⟨k, hk⟩ := h
  exact ⟨k, hk.stores, hk.orderly⟩

/-- What an operation writes would be taken again. -/
theorem Retakes.carry {fresh posts : Prop} (hfresh : fresh) (h : Retakes since s.store s.world) {x : Write}
    (hx : x.KeepsOrder s fresh posts) {store : Store} {v w : World} (hv : s.world.Alike v)
    (hrun : ExceptT.run (x.carry s.store) v = (.ok store, w)) : Retakes since store w := by
  obtain ⟨k, hk⟩ := h.of_alike hv
  cases x with
  | rules rules =>
    obtain ⟨current, hcurrent, horderly⟩ := h.hasOrder.run_rules
    exact ⟨_, hk.saveRules (hx current hcurrent horderly hfresh) hrun⟩
  | record r => exact ⟨_, hk.append hrun⟩

/-- A step leaves a store that would take its rules again, whether its operation succeeds or fails. -/
theorem Retakes.step (h : Retakes since s.store s.world) (hfresh : t.operation.IsFresh (s.begin t)) :
    Retakes since (s.step t).2.store (s.step t).2.world := by
  have hbegin : Retakes since (s.begin t).store (s.begin t).world := h
  refine (does_perform (s.begin t) t.operation).keeps hbegin rfl (fun _ _ _ hinv => hinv.of_alike) ?_
  exact fun _ _ _ _ hx hv _ => hbegin.carry hfresh hx hv

/-- A run leaves a store that would take its rules again. -/
theorem Retakes.after (h : Retakes since s.store s.world) {steps : List Step} (hfresh : s.AllFresh steps) :
    Retakes since (s.after steps).store (s.after steps).world := by
  induction steps generalizing s with
  | nil => exact h
  | cons t rest ih => exact ih (h.step hfresh.1) hfresh.2

/-- **Every reachable store would take its rules again**, after any run of operations on a new store in which rules
are made with new identifiers. -/
theorem retakes_after {limits : Json.Limits} {seed : Bool} {place : Store.Place} {w : World}
    (h : openAt? limits seed place w = some s) (hnew : s.store.isNew w.files.next s.world.files = true)
    {steps : List Step} (hfresh : s.AllFresh steps) :
    Retakes w.files.next (s.after steps).store (s.after steps).world := by
  refine Retakes.after ?_ hfresh
  rw [openAt?] at h
  split at h
  · rename_i store world hopen
    cases h
    exact ⟨_, Store.retakes_of_openAt hopen hnew⟩
  · cases h

end Session

end RuleLabels
