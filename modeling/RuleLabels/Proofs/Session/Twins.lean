import Mathlib.Tactic.Common
import RuleLabels.Proofs.Rule.Loading
import RuleLabels.Proofs.Session.Agreement
import RuleLabels.Proofs.Store.Holding

/-!
# Twin sessions

A session in memory and another one are twins if both stores hold the same sound stock, both sessions are
at the same time with the same identifiers, and both find the same files to load.  Twins agree on whatever a
service asks of its store and its surroundings, and stay twins.
-/

namespace RuleLabels.Session

/-- A session in memory among the files `base`, and one whose store holds the same sound stock in files that
are newer.  Both find the same under the names `ls`. -/
structure Twins (base : Files) (ls : List Location) (k : Stock) (s t : Session) : Prop where
  memory : s.store = .memory k.rules k.records
  holds : t.store.Holds base.next t.world.files k
  sound : k.IsSound
  now : t.world.now = s.world.now
  ids : t.world.ids = s.world.ids
  files : s.world.files = base
  found : ∀ l ∈ ls, t.world.files.find l = base.find l

/-- Twins agree on a service; after a failure they are twins still. -/
def AgreeOn {α : Type} (base : Files) (ls : List Location) (k : Stock) (s t : Session) (x : Service α)
    (post : α → Session → Session → Prop) : Prop :=
  Agree (Twins base ls k) post (s.run x) (t.run x)

namespace Twins

variable {base : Files} {ls : List Location} {k : Stock} {s t : Session} {fail : Session → Session → Prop}

theorem memory_holds (h : Twins base ls k s t) : s.store.Holds base.next s.world.files k := by
  rw [h.memory]
  exact ⟨rfl, rfl⟩

/-- Twins stay twins while their files stay and both get one time and the same identifiers. -/
theorem of_files (h : Twins base ls k s t) {v w : World} (hv : v.files = s.world.files)
    (hw : w.files = t.world.files) (hnow : w.now = v.now) (hids : w.ids = v.ids) :
    Twins base ls k ⟨s.store, v⟩ ⟨t.store, w⟩ where
  memory := h.memory
  holds := by
    show t.store.Holds base.next w.files k
    rw [hw]
    exact h.holds
  sound := h.sound
  now := hnow
  ids := hids
  files := hv.trans h.files
  found l hl := by
    show w.files.find l = base.find l
    rw [hw]
    exact h.found l hl

/-! ## What the surroundings give -/

/-- Twins see the same time. -/
theorem agree_now (h : Twins base ls k s t) :
    Agree fail (fun _ s' t' => s' = s ∧ t' = t) (s.run (liftM Action.now))
      (t.run (liftM Action.now)) := by
  have ht : ExceptT.run Action.now t.world = (.ok s.world.now, t.world) := by rw [Action.run_now, h.now]
  refine (Agree.lift (Action.run_now s.world) ht fun _ he => nomatch he).mono ?_
  rintro _ _ _ ⟨-, rfl, rfl⟩
  exact ⟨rfl, rfl⟩

/-- Twins get the same of what is made of identifiers. -/
theorem agree_ids (h : Twins base ls k s t) {α : Type} {x : Action α} (made : IdSource → α)
    (rest : IdSource → IdSource)
    (hx : ∀ w, ExceptT.run x w = (.ok (made w.ids), { w with ids := rest w.ids })) :
    Agree fail
      (fun a s' t' => a = made s.world.ids ∧ Twins base ls k s' t')
      (s.run (liftM x)) (t.run (liftM x)) := by
  have ht : ExceptT.run x t.world = (.ok (made s.world.ids), { t.world with ids := rest s.world.ids }) := by
    rw [hx, h.ids]
  refine (Agree.lift (hx s.world) ht fun _ he => nomatch he).mono ?_
  rintro _ _ _ ⟨ha, rfl, rfl⟩
  cases ha
  exact ⟨rfl, h.of_files rfl rfl h.now rfl⟩

/-- A message makes no difference between twins. -/
theorem agree_log (h : Twins base ls k s t) (level : Level) (sender message : String) :
    Agree fail (fun _ s' t' => Twins base ls k s' t')
      (s.run (liftM (Action.log level sender message)))
      (t.run (liftM (Action.log level sender message))) := by
  refine (Agree.lift (Action.run_log level sender message s.world)
    (Action.run_log level sender message t.world) fun _ he => nomatch he).mono ?_
  rintro _ _ _ ⟨-, rfl, rfl⟩
  exact h.of_files rfl rfl h.now h.ids

/-- Twins load the same rules from a file that both find. -/
theorem agree_load (h : Twins base ls k s t) {l : Location} (hl : l ∈ ls) :
    AgreeOn base ls k s t (liftM (Rule.load l)) fun rules s' t' =>
      (s.run (liftM (Rule.load l))).1 = .ok rules ∧ Rule.AreOrderly rules ∧ Twins base ls k s' t' := by
  obtain ⟨r, ids, horderly, hrun⟩ := Rule.run_load l (base.find l) s.world.now s.world.ids
  have hs := hrun s.world (by rw [h.files]) rfl rfl
  have ht := hrun t.world (h.found l hl) h.now h.ids
  refine (Agree.lift hs ht fun _ _ => h.of_files rfl rfl h.now rfl).mono ?_
  rintro rules _ _ ⟨rfl, rfl, rfl⟩
  refine ⟨?_, horderly rules rfl, h.of_files rfl rfl h.now rfl⟩
  rw [run_lift hs]

/-! ## What the stores give and take -/

/-- Twins give the same rules. -/
theorem agree_rules (h : Twins base ls k s t) :
    Agree fail (fun rules s' t' => rules = k.rules ∧ s' = s ∧ t' = t) (s.run Service.rules)
      (t.run Service.rules) := by
  rw [run_rules, run_rules, run_lift (Store.run_rules h.memory_holds h.sound),
    run_lift (Store.run_rules h.holds h.sound)]
  exact .ok k.rules s t ⟨rfl, rfl, rfl⟩

/-- Twins give the same records. -/
theorem agree_records (h : Twins base ls k s t) :
    Agree fail (fun records s' t' => records = k.records ∧ s' = s ∧ t' = t) (s.run Service.records)
      (t.run Service.records) := by
  rw [run_records, run_records, run_lift (Store.run_records h.memory_holds h.sound),
    run_lift (Store.run_records h.holds h.sound)]
  exact .ok k.records s t ⟨rfl, rfl, rfl⟩

/-- Twins whose stores take another sound stock stay twins. -/
theorem of_holds (h : Twins base ls k s t) {k' : Stock} (hk : k'.IsSound) {store : Store} {w : World}
    (hholds : store.Holds base.next w.files k') (hkeeps : t.world.Keeps base.next w) :
    Twins base ls k' ⟨.memory k'.rules k'.records, s.world⟩ ⟨store, w⟩ where
  memory := rfl
  holds := hholds
  sound := hk
  now := hkeeps.now.trans h.now
  ids := hkeeps.ids.trans h.ids
  files := h.files
  found l hl := by
    show w.files.find l = base.find l
    rw [hkeeps.find l, h.found l hl]
    intro n c hn
    rw [h.found l hl] at hn
    exact Files.lt_next_of_find hn

/-- Twins take the same rules, and then hold them. -/
theorem agree_saveRules (h : Twins base ls k s t) {rules : List Rule}
    (hk : Stock.IsSound ⟨rules, k.records⟩) :
    Agree fail (fun _ s' t' => Twins base ls ⟨rules, k.records⟩ s' t')
      (s.run (Service.saveRules rules)) (t.run (Service.saveRules rules)) := by
  have hs : ExceptT.run (s.store.saveRules rules) s.world = (.ok (.memory rules k.records), s.world) := by
    rw [h.memory]
    rfl
  obtain ⟨store, w, ht, hholds, hkeeps⟩ := Store.run_saveRules h.holds hk
  rw [run_saveRules hs, run_saveRules ht]
  exact .ok () ⟨_, _⟩ ⟨_, _⟩ (h.of_holds hk hholds hkeeps)

/-- Twins take the same record, and then hold it. -/
theorem agree_append (h : Twins base ls k s t) {r : Record}
    (hk : Stock.IsSound ⟨k.rules, k.records ++ [r]⟩) :
    Agree fail (fun _ s' t' => Twins base ls ⟨k.rules, k.records ++ [r]⟩ s' t')
      (s.run (Service.append r)) (t.run (Service.append r)) := by
  have hs : ExceptT.run (s.store.append r) s.world = (.ok (.memory k.rules (k.records ++ [r])), s.world) := by
    rw [h.memory]
    rfl
  obtain ⟨store, w, ht, hholds, hkeeps⟩ := Store.run_append h.holds hk
  rw [run_append hs, run_append ht]
  exact .ok () ⟨_, _⟩ ⟨_, _⟩ (h.of_holds hk hholds hkeeps)

end Twins

end RuleLabels.Session
