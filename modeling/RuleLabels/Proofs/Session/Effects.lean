import Mathlib.Tactic.Common
import RuleLabels.Proofs.Session.Agreement
import RuleLabels.Proofs.Store.Failing

/-!
# What a service does to its store

A service looks at the store first, then has it take rules or a record at most once, and cannot fail after
that.  `Does` says so of an outcome: it is a failure or a value with nothing written, and the world is left
alike, or a value that comes after one write that the store has taken.

* `Peeks` and its rules are for the parts of a service that write nothing;
* `Does.bind` puts such a part before a service, and `Does.write` a write;
* `Does.keeps`: what alike worlds share and no write breaks is kept, whatever the service does.
-/

namespace RuleLabels.Session

variable {α β : Type}

/-! ## What a store gives -/

theorem run_rules_fst (s : Session) : (s.run Service.rules).1 = (ExceptT.run s.store.rules s.world).1 := rfl

theorem run_records_fst (s : Session) :
    (s.run Service.records).1 = (ExceptT.run s.store.records s.world).1 := rfl

/-- A store gives the same rules in worlds that are alike. -/
theorem run_rules_congr {s : Session} {w : World} (h : s.world.Alike w) :
    ((Session.mk s.store w).run Service.rules).1 = (s.run Service.rules).1 := by
  rw [run_rules_fst, run_rules_fst]
  exact s.store.reads_rules.outcome h

theorem run_records_congr {s : Session} {w : World} (h : s.world.Alike w) :
    ((Session.mk s.store w).run Service.records).1 = (s.run Service.records).1 := by
  rw [run_records_fst, run_records_fst]
  exact s.store.reads_records.outcome h

/-- To ask for the rules that a session gives changes nothing. -/
theorem run_rules_of_gives {s : Session} {rules : List Rule} (h : (s.run Service.rules).1 = .ok rules) :
    s.run Service.rules = (.ok rules, s) := by
  rw [run_rules_fst] at h
  rw [run_rules, run_lift (s.store.reads_rules.run _), h]

/-! ## Writes -/

/-- What a store may be asked to take. -/
inductive Write where
  | rules (rules : List Rule)
  | record (r : Record)

/-- Has a store take what is written. -/
def Write.carry : Write → Store → Action Store
  | rules rs, s => s.saveRules rs
  | record r, s => s.append r

/-- Asks the store to take what is written. -/
def Write.ask : Write → Service Unit
  | rules rs => Service.saveRules rs
  | record r => Service.append r

theorem Write.run_ask (x : Write) (s : Session) :
    s.run x.ask =
      match ExceptT.run (x.carry s.store) s.world with
      | (.ok store, w) => (.ok (), ⟨store, w⟩)
      | (.error e, w) => (.error e, ⟨s.store, w⟩) := by
  cases x <;> exact run_setStore _ s

/-- To have rules saved is to have the store take them. -/
theorem run_saveRules_fst (s : Session) (rules : List Rule) :
    (s.run (Service.saveRules rules)).1 = (ExceptT.run (s.store.saveRules rules) s.world).1.map fun _ => () := by
  have hask : s.run (Service.saveRules rules) = _ := Write.run_ask (.rules rules) s
  have hcarry : (Write.rules rules).carry s.store = s.store.saveRules rules := rfl
  rw [hask, hcarry]
  cases ExceptT.run (s.store.saveRules rules) s.world with
  | mk r w => cases r <;> rfl

/-- What a store does not take leaves no trace. -/
theorem Write.run_carry_eq_error {x : Write} {s : Store} {w w' : World} {e : Failure}
    (h : ExceptT.run (x.carry s) w = (.error e, w')) : w.Alike w' := by
  cases x with
  | rules rs => exact Store.run_saveRules_eq_error h
  | record r => exact Store.run_append_eq_error h

/-- A store takes rules, with a message and an answer behind it, or fails to. -/
theorem run_saveRules_reported (s : Session) (rules : List Rule) (message : String) (a : α) :
    s.run (do
      Service.saveRules rules
      Action.log .info Service.rulesSender message
      return a) =
      match ExceptT.run (s.store.saveRules rules) s.world with
      | (.ok store, w) =>
        (.ok a, ⟨store, { w with log := w.log.send ⟨.info, Service.rulesSender, message⟩ }⟩)
      | (.error e, w) => (.error e, ⟨s.store, w⟩) := by
  have hask : s.run (Service.saveRules rules) = _ := Write.run_ask (.rules rules) s
  have hcarry : (Write.rules rules).carry s.store = s.store.saveRules rules := rfl
  rw [run_bind, hask, hcarry]
  cases ExceptT.run (s.store.saveRules rules) s.world with
  | mk r w => cases r <;> rfl

/-! ## Services that write nothing -/

/-- An outcome of a service that writes nothing and leaves the session as it is, with a value of which `post`
holds if there is one. -/
inductive Peeks (post : α → Prop) (s : Session) : Except Failure α × Session → Prop
  | ok (a : α) (h : post a) : Peeks post s (.ok a, s)
  | error (e : Failure) : Peeks post s (.error e, s)

namespace Peeks

variable {s : Session}

theorem pure {post : α → Prop} {a : α} (h : post a) : Peeks post s (s.run (Pure.pure a)) := .ok a h

theorem throw {post : α → Prop} (e : Failure) : Peeks post s (s.run (MonadExcept.throw e)) := .error e

theorem mono {post post' : α → Prop} {r : Except Failure α × Session} (h : Peeks post s r)
    (hpost : ∀ a, post a → post' a) : Peeks post' s r := by
  cases h with
  | ok a h => exact .ok a (hpost a h)
  | error e => exact .error e

theorem lift {x : Action α} (hx : x.Reads) :
    Peeks (fun a => ExceptT.run x s.world = (.ok a, s.world)) s (s.run (liftM x)) := by
  have hrun := hx.run s.world
  rw [run_lift hrun]
  cases hr : (ExceptT.run x s.world).1 with
  | ok a =>
    rw [hr] at hrun
    exact .ok a hrun
  | error e => exact .error e

theorem ofChecked (c : Checked α) :
    Peeks (fun a => c = .ok a) s (s.run (liftM (Action.ofChecked c))) := by
  cases c with
  | ok a => exact .ok a rfl
  | error e => exact .error (.ofInvalid e)

theorem bind {x : Service α} {f : α → Service β} {post : α → Prop} {post' : β → Prop}
    (hx : Peeks post s (s.run x)) (hf : ∀ a, post a → Peeks post' s (s.run (f a))) :
    Peeks post' s (s.run (x >>= f)) := by
  rw [run_bind]
  generalize s.run x = r at hx ⊢
  cases hx with
  | ok a h => exact hf a h
  | error e => exact .error e

theorem now : Peeks (fun a => a = s.world.now) s (s.run (liftM Action.now)) := .ok _ rfl

theorem rules : Peeks (fun rs => (s.run Service.rules).1 = .ok rs) s (s.run Service.rules) := by
  rw [run_rules_fst, run_rules]
  refine (lift s.store.reads_rules).mono fun rs h => ?_
  rw [h]

theorem records : Peeks (fun rs => (s.run Service.records).1 = .ok rs) s (s.run Service.records) := by
  rw [run_records_fst, run_records]
  refine (lift s.store.reads_records).mono fun rs h => ?_
  rw [h]

end Peeks

/-! ## Services that only send messages -/

/-- A service that succeeds, keeps the store and changes no more of the world than identifiers and log. -/
def Ends (x : Service α) : Prop :=
  ∀ s : Session, ∃ a w, s.run x = (.ok a, ⟨s.store, w⟩) ∧ s.world.Alike w

theorem Ends.pure (a : α) : Ends (Pure.pure a : Service α) := fun s => ⟨a, s.world, rfl, .refl _⟩

theorem Ends.now : Ends (liftM Action.now : Service Timestamp) := fun s => ⟨_, s.world, rfl, .refl _⟩

theorem Ends.log (level : Level) (sender message : String) :
    Ends (liftM (Action.log level sender message) : Service Unit) := fun _ =>
  ⟨(), _, run_lift (Action.run_log _ _ _ _), .log _ _⟩

theorem Ends.bind {x : Service α} {f : α → Service β} (hx : Ends x) (hf : ∀ a, Ends (f a)) :
    Ends (x >>= f) := by
  intro s
  obtain ⟨a, w, hrun, halike⟩ := hx s
  obtain ⟨b, w', hrun', halike'⟩ := hf a ⟨s.store, w⟩
  refine ⟨b, w', ?_, halike.trans halike'⟩
  rw [run_bind_ok hrun]
  exact hrun'

/-! ## Services that write once -/

/-- An outcome of a service on a session: it failed or gave a value without writing anything, or it gave a
value after a write of which `may` holds. -/
inductive Does (may : Write → Prop) (s : Session) : Except Failure α × Session → Prop
  | fails (e : Failure) {w : World} (h : s.world.Alike w) : Does may s (.error e, ⟨s.store, w⟩)
  | looks (a : α) {w : World} (h : s.world.Alike w) : Does may s (.ok a, ⟨s.store, w⟩)
  | writes (a : α) {x : Write} {store : Store} {v v' w : World} (hmay : may x) (hv : s.world.Alike v)
    (hrun : ExceptT.run (x.carry s.store) v = (.ok store, v')) (hw : v'.Alike w) :
    Does may s (.ok a, ⟨store, w⟩)

namespace Does

variable {may : Write → Prop} {s : Session}

/-- Worlds that are alike before a service make no difference. -/
theorem of_alike {v : World} {r : Except Failure α × Session} (hv : s.world.Alike v)
    (h : Does may ⟨s.store, v⟩ r) : Does may s r := by
  cases h with
  | fails e h => exact .fails e (hv.trans h)
  | looks a h => exact .looks a (hv.trans h)
  | writes a hmay h hrun hw => exact .writes a hmay (hv.trans h) hrun hw

theorem of_peeks {post : α → Prop} {r : Except Failure α × Session} (h : Peeks post s r) :
    Does may s r := by
  cases h with
  | ok a h => exact .looks a (.refl _)
  | error e => exact .fails e (.refl _)

theorem of_ends {x : Service α} (h : Ends x) : Does may s (s.run x) := by
  obtain ⟨a, w, hend, halike⟩ := h s
  rw [hend]
  exact .looks a halike

theorem throw (e : Failure) : Does may s (s.run (MonadExcept.throw e : Service α)) := .fails e (.refl _)

/-- Nothing comes after a failure. -/
theorem throw_bind (e : Failure) (f : β → Service α) :
    Does may s (s.run ((MonadExcept.throw e : Service β) >>= f)) := by
  rw [run_bind]
  exact .fails e (.refl _)

/-- What is looked at before comes to nothing else. -/
theorem bind {x : Service α} {f : α → Service β} {post : α → Prop} (hx : Peeks post s (s.run x))
    (hf : ∀ a, post a → Does may s (s.run (f a))) : Does may s (s.run (x >>= f)) := by
  rw [run_bind]
  generalize s.run x = r at hx ⊢
  cases hx with
  | ok a h => exact hf a h
  | error e => exact .fails e (.refl _)

/-- Identifiers may be taken on the way, even where that fails. -/
theorem bind_ids {x : Action α} {f : α → Service β} {r : Except Failure α} {ids : IdSource}
    (hx : ExceptT.run x s.world = (r, { s.world with ids }))
    (hf : ∀ a, r = .ok a → Does may ⟨s.store, { s.world with ids }⟩
      ((Session.mk s.store { s.world with ids }).run (f a))) :
    Does may s (s.run (liftM x >>= f)) := by
  rw [run_bind, run_lift hx]
  cases r with
  | ok a => exact (hf a rfl).of_alike (.ids _ _)
  | error e => exact .fails e (.ids _ _)

/-- What is asked of the store is all that is written, and nothing is if the store does not take it. -/
theorem ask {x : Write} (hmay : may x) : Does may s (s.run x.ask) := by
  rw [x.run_ask]
  cases hrun : ExceptT.run (x.carry s.store) s.world with
  | mk r v =>
    cases r with
    | error e => exact .fails e (Write.run_carry_eq_error hrun)
    | ok store => exact .writes () hmay (.refl _) hrun (.refl _)

/-- Nothing fails after a write. -/
theorem bind_ends {x : Service α} {f : α → Service β} (h : Does may s (s.run x)) (hf : ∀ a, Ends (f a)) :
    Does may s (s.run (x >>= f)) := by
  rw [run_bind]
  generalize s.run x = r at h ⊢
  cases h with
  | fails e h => exact .fails e h
  | looks a h =>
    obtain ⟨b, w, hend, halike⟩ := hf a ⟨s.store, _⟩
    dsimp only
    rw [hend]
    exact .looks b (h.trans halike)
  | writes a hmay hv hrun hw =>
    obtain ⟨b, w, hend, halike⟩ := hf a ⟨_, _⟩
    dsimp only
    rw [hend]
    exact .writes b hmay hv hrun (hw.trans halike)

theorem saveRules {rules : List Rule} {f : Unit → Service β} (hmay : may (.rules rules))
    (hf : ∀ u, Ends (f u)) : Does may s (s.run (Service.saveRules rules >>= f)) :=
  bind_ends (ask hmay) hf

theorem append {r : Record} {f : Unit → Service β} (hmay : may (.record r)) (hf : ∀ u, Ends (f u)) :
    Does may s (s.run (Service.append r >>= f)) :=
  bind_ends (ask hmay) hf

theorem map {x : Service α} (f : α → β) (h : Does may s (s.run x)) : Does may s (s.run (f <$> x)) := by
  rw [run_map]
  generalize s.run x = r at h ⊢
  cases h with
  | fails e h => exact .fails e h
  | looks a h => exact .looks (f a) h
  | writes a hmay hv hrun hw => exact .writes (f a) hmay hv hrun hw

/-- What worlds that are alike share, and no write breaks, holds after the service as it did before. -/
theorem keeps {inv : Store → World → Prop} {r : Except Failure α × Session} {x : Service α}
    (h : Does may s (s.run x)) (hinv : inv s.store s.world) (hr : s.run x = r)
    (halike : ∀ store v w, inv store v → v.Alike w → inv store w)
    (hwrite : ∀ y store v w, may y → s.world.Alike v → inv s.store v →
      ExceptT.run (Write.carry y s.store) v = (.ok store, w) → inv store w) :
    inv r.2.store r.2.world := by
  subst hr
  generalize s.run x = r at h
  cases h with
  | fails e h => exact halike _ _ _ hinv h
  | looks a h => exact halike _ _ _ hinv h
  | writes a hmay hv hrun hw =>
    exact halike _ _ _ (hwrite _ _ _ _ hmay hv (halike _ _ _ hinv hv) hrun) hw

end Does

end RuleLabels.Session
