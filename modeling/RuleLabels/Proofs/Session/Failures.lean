import Mathlib.Tactic.Common
import RuleLabels.Proofs.Session.Backends
import RuleLabels.Proofs.Session.Writes

/-!
# A failure changes nothing

Whatever is asked of a session, and in whatever state its store and the files are: if it fails, the store
gives the rules and the records that it gave before, and every file and folder is as it was.  Nothing is left
of a draft, and nothing of a transaction.
-/

namespace RuleLabels.Session

/-- Another session shows what a session shows: the same store and time, the same rules and records, and
the same entries, so that each file has the same content and each folder the same names. -/
structure Unchanged (s s' : Session) : Prop where
  store : s'.store = s.store
  now : s'.world.now = s.world.now
  rules : (s'.run Service.rules).1 = (s.run Service.rules).1
  records : (s'.run Service.records).1 = (s.run Service.records).1
  entries : s'.world.files.entries = s.world.files.entries
  content : ∀ l, s'.world.files.content l = s.world.files.content l
  names : ∀ l, s'.world.files.names l = s.world.files.names l

variable {α : Type} {s : Session}

theorem Unchanged.of_alike {w : World} (h : s.world.Alike w) : s.Unchanged { s with world := w } where
  store := rfl
  now := h.now
  rules := run_rules_congr h
  records := run_records_congr h
  entries := h.entries
  content := Files.content_congr h.entries
  names := Files.names_congr h.entries

/-- A service that writes at most once, and last, changes nothing where it fails. -/
theorem Does.unchanged {may : Write → Prop} {x : Service α} {e : Failure} (h : Does may s (s.run x))
    (he : (s.run x).1 = .error e) : s.Unchanged (s.run x).2 := by
  generalize s.run x = r at h he ⊢
  cases h with
  | fails e h => exact .of_alike h
  | looks a h => cases he
  | writes a hmay hv hrun hw => cases he

/-- A write that the store does not take changes nothing. -/
theorem Write.unchanged (x : Write) {e : Failure} (he : (s.run x.ask).1 = .error e) :
    s.Unchanged (s.run x.ask).2 :=
  Does.unchanged (Does.ask trivial : Does (fun _ => True) s (s.run x.ask)) he

/-- **A failure changes nothing.**  Every operation, and every write that is asked of the store, leaves the
session as it was if it fails. -/
theorem unchanged_of_error (s : Session) :
    (∀ (o : Operation) (e : Failure), (s.run o.perform).1 = .error e → s.Unchanged (s.run o.perform).2) ∧
    (∀ (rules : List Rule) (e : Failure), (s.run (Service.saveRules rules)).1 = .error e →
      s.Unchanged (s.run (Service.saveRules rules)).2) ∧
    ∀ (r : Record) (e : Failure), (s.run (Service.append r)).1 = .error e →
      s.Unchanged (s.run (Service.append r)).2 :=
  ⟨fun o _ he => (does_perform s o).unchanged he,
    fun rules _ he => (Write.rules rules).unchanged he,
    fun r _ he => (Write.record r).unchanged he⟩

/-- A payload that holds a date. -/
def datedPayload : Value := .object [("since", .moment Timestamp.epoch.toMoment)]

/-- In a folder the record of a dated payload cannot be written, which is found only when there is a
draft. -/
theorem unchanged_of_error_dated :
    ∃ (s : Session) (e : Failure),
      openAt? .unbounded false (.folder ⟨"", ["data"]⟩) bareWorld = some s ∧
      (s.run (Operation.process datedPayload).perform).1 = .error e ∧
      s.Unchanged (s.run (Operation.process datedPayload).perform).2 := by
  have hfails : (openAt? .unbounded false (.folder ⟨"", ["data"]⟩) bareWorld).any fun s =>
      !(s.run (Operation.process datedPayload).perform).1.isOk := by
    decide +kernel
  obtain ⟨s, hs, hfail⟩ := (Option.any_eq_true _ _).1 hfails
  cases he : (s.run (Operation.process datedPayload).perform).1 with
  | ok a =>
    rw [he] at hfail
    cases hfail
  | error e => exact ⟨s, e, hs, he, (unchanged_of_error s).1 (.process datedPayload) e he⟩

end RuleLabels.Session
