import Mathlib.Tactic.Common
import RuleLabels.Proofs.Session.Operations
import RuleLabels.Proofs.Store.Opening

/-!
# All kinds of stores show the same

Two sessions with new stores that were opened in one world, each at a place of its own, show the same at
every step: the same outcomes, the same rules and the same records.  Each of them is the twin of a session in
memory, and what suits the session in memory suits them all.

* `Session.Twins.step_eq`: twins show the same at a step, and are twins after it;
* `Session.Twins.trace_eq`: so they do along a run;
* `Session.trace_eq_trace`: whatever places their stores were opened at.
-/

namespace RuleLabels.Session

/-- Operations suit a session, each of them after those before it. -/
def Suits (s : Session) : List Step → Prop
  | [] => True
  | t :: rest => t.operation.Suits (s.begin t) ∧ Suits (s.step t).2 rest

/-- The files that steps load. -/
def loaded (steps : List Step) : List Location := steps.filterMap (·.operation.file?)

/-- What is loaded along a run is loaded at its first step or along the rest. -/
theorem mem_of_loaded_cons {ls : List Location} {t : Step} {rest : List Step}
    (h : ∀ l ∈ loaded (t :: rest), l ∈ ls) :
    (∀ l, t.operation.file? = some l → l ∈ ls) ∧ ∀ l ∈ loaded rest, l ∈ ls := by
  constructor
  · intro l hl
    exact h l (List.mem_filterMap.2 ⟨t, List.mem_cons_self, hl⟩)
  · intro l hl
    obtain ⟨t', ht', hl'⟩ := List.mem_filterMap.1 hl
    exact h l (List.mem_filterMap.2 ⟨t', List.mem_cons_of_mem t ht', hl'⟩)

/-- A session in memory with what a new store begins with. -/
def inMemory (seed : Bool) (w : World) : Session :=
  ⟨.memory (Stock.initial seed w.now).rules (Stock.initial seed w.now).records, w⟩

/-- A session whose store was opened in a world and is new.  No file that is to be loaded and was missing
was made on the way. -/
structure IsOpened (w : World) (seed : Bool) (place : Store.Place) (ls : List Location) (s : Session) :
    Prop where
  opens : openAt? .unbounded seed place w = some s
  new : s.store.isNew w.files.next s.world.files = true
  missing : ∀ l ∈ ls, ∀ f, w.files.find l = .error f → s.world.files.find l = .error f

theorem run_of_openAt? {limits : Json.Limits} {seed : Bool} {place : Store.Place} {w : World} {s : Session}
    (h : openAt? limits seed place w = some s) :
    ExceptT.run (Store.openAt limits seed place) w = (.ok s.store, s.world) := by
  rw [openAt?] at h
  split at h
  · rename_i hrun
    cases h
    exact hrun
  · exact nomatch h

variable {base : Files} {ls : List Location} {k : Stock} {s t : Session}

/-- A new session is the twin of a session in memory. -/
theorem IsOpened.twins {w : World} {seed : Bool} {place : Store.Place} (h : IsOpened w seed place ls s) :
    Twins w.files ls (Stock.initial seed w.now) (inMemory seed w) s := by
  obtain ⟨hholds, hopens⟩ := Store.holds_of_openAt (run_of_openAt? h.opens) h.new
  refine ⟨rfl, hholds, Stock.isSound_initial seed w.now, hopens.now, hopens.ids, rfl, ?_⟩
  intro l hl
  cases hfind : w.files.find l with
  | ok e => exact hopens.find l e hfind
  | error f => exact h.missing l hl f hfind

namespace Twins

/-- Twins begin a step as twins. -/
theorem begin (h : Twins base ls k s t) (st : Step) : Twins base ls k (s.begin st) (t.begin st) :=
  h.of_files rfl rfl rfl rfl

/-- Twins show the same after an outcome. -/
theorem observe_eq (h : Twins base ls k s t) (outcome : Except Failure Answer) :
    s.observe outcome = t.observe outcome := by
  obtain ⟨hrules, hrules'⟩ := h.run_rules
  obtain ⟨hrecords, hrecords'⟩ := h.run_records
  rw [observe, observe, hrules, hrules', hrecords, hrecords']

/-- Twins show the same at a step that suits them, and are twins after it. -/
theorem step_eq (h : Twins base ls k s t) {st : Step} (hfile : ∀ l, st.operation.file? = some l → l ∈ ls)
    (hsuits : st.operation.Suits (s.begin st)) :
    (s.step st).1 = (t.step st).1 ∧ ∃ k', Twins base ls k' (s.step st).2 (t.step st).2 := by
  obtain ⟨houtcome, k', hafter⟩ := run_eq ((h.begin st).stay_perform hfile hsuits)
  refine ⟨?_, k', hafter⟩
  rw [step, step]
  dsimp only
  rw [houtcome]
  exact hafter.observe_eq _

/-- Twins show the same at all steps of a run that suits them. -/
theorem trace_eq (h : Twins base ls k s t) {steps : List Step} (hfiles : ∀ l ∈ loaded steps, l ∈ ls)
    (hsuits : s.Suits steps) : s.trace steps = t.trace steps := by
  induction steps generalizing k s t with
  | nil => rfl
  | cons st rest ih =>
    obtain ⟨hst, hrest⟩ := hsuits
    obtain ⟨hfile, hfiles'⟩ := mem_of_loaded_cons hfiles
    obtain ⟨hshown, k', hafter⟩ := h.step_eq hfile hst
    rw [trace, trace, hshown, ih hafter hfiles' hrest]

/-- Twins are twins after a run that suits them. -/
theorem after (h : Twins base ls k s t) {steps : List Step} (hfiles : ∀ l ∈ loaded steps, l ∈ ls)
    (hsuits : s.Suits steps) : ∃ k', Twins base ls k' (s.after steps) (t.after steps) := by
  induction steps generalizing k s t with
  | nil => exact ⟨k, h⟩
  | cons st rest ih =>
    obtain ⟨hst, hrest⟩ := hsuits
    obtain ⟨hfile, hfiles'⟩ := mem_of_loaded_cons hfiles
    obtain ⟨-, k', hafter⟩ := h.step_eq hfile hst
    exact ih hafter hfiles' hrest

end Twins

/-- **All kinds of stores show the same.**  Sessions with new stores, opened in one world at any two places,
show the same along every run of operations that suits a session in memory.  Texts that suit it have neither
halves of characters nor the private characters that stand for halves. -/
theorem trace_eq_trace {w : World} {seed : Bool} {place place' : Store.Place} {steps : List Step}
    (hs : IsOpened w seed place (loaded steps) s) (ht : IsOpened w seed place' (loaded steps) t)
    (hsuits : (inMemory seed w).Suits steps) : s.trace steps = t.trace steps := by
  have hs' := hs.twins.trace_eq (fun _ hl => hl) hsuits
  have ht' := ht.twins.trace_eq (fun _ hl => hl) hsuits
  exact hs'.symm.trans ht'

/-! ## A run in a folder and in a database -/

/-- A world at the epoch, without files and settings. -/
def bareWorld : World := ⟨.epoch, ⟨0, 0⟩, [], .empty, .everything⟩

/-- One second later than the world began. -/
def oneSecondLater : Timestamp := { Timestamp.epoch with time := ⟨0, 0, 1, 0, by decide⟩ }

/-- A file is to be loaded that is not there, a payload is processed, and a rule is to be removed that is
not there. -/
def threeSteps : List Step := [
  ⟨.epoch, ⟨1, 0⟩, .load ⟨"", ["rules.json"]⟩ false⟩,
  ⟨.epoch, ⟨2, 0⟩, .process (.object [("CompanyName", .text "Google")])⟩,
  ⟨.epoch, ⟨3, 0⟩, .delete "rule-1"⟩]

/-- A value that comes of an outcome passes a test. -/
def passes {α : Type} (p : α → Bool) : Except Failure α → Bool
  | .ok a => p a
  | .error _ => true

theorem of_passes {α : Type} {p : α → Bool} {x : Except Failure α} (h : passes p x = true) (a : α)
    (ha : x = .ok a) : p a = true := by
  subst ha
  exact h

theorem suits_threeSteps : (inMemory false bareWorld).Suits threeSteps := by
  refine ⟨fun rules h => ?_, ⟨fun records h => ?_, by decide⟩, trivial, trivial⟩
  · exact absurd (of_passes (p := fun _ => false) (by decide +kernel) rules h) Bool.false_ne_true
  · have hempty := of_passes (p := List.isEmpty) (by decide +kernel) records h
    rw [List.isEmpty_iff.1 hempty]
    exact List.not_mem_nil

/-- The reason for which nothing was found. -/
def fault? : Except FileFault Entry → Option FileFault
  | .ok _ => none
  | .error f => some f

theorem eq_error_of_fault? {x : Except FileFault Entry} {f : FileFault} (h : fault? x = some f) :
    x = .error f := by
  cases x with
  | ok e => exact nomatch h
  | error f' =>
    cases h
    rfl

/-- What is to be computed of a store in the bare world. -/
theorem exists_isOpened_bareWorld {place : Store.Place}
    (h : (openAt? .unbounded false place bareWorld).any (fun s => s.store.isNew 0 s.world.files &&
      fault? (s.world.files.find ⟨"", ["rules.json"]⟩) = some .notFound) = true) :
    ∃ s, IsOpened bareWorld false place (loaded threeSteps) s := by
  obtain ⟨s, hs, hnew⟩ := (Option.any_eq_true _ _).1 h
  rw [Bool.and_eq_true, decide_eq_true_eq] at hnew
  refine ⟨s, hs, hnew.1, ?_⟩
  intro l hl f hf
  cases List.mem_singleton.1 hl
  have hbefore : fault? (bareWorld.files.find ⟨"", ["rules.json"]⟩) = some .notFound := by decide +kernel
  rw [hf] at hbefore
  cases hbefore
  exact eq_error_of_fault? hnew.2

theorem trace_eq_trace_threeSteps :
    ∃ s t, IsOpened bareWorld false (.folder ⟨"", ["data"]⟩) (loaded threeSteps) s ∧
      IsOpened bareWorld false (.database "sqlite:///labels.db") (loaded threeSteps) t ∧
      (inMemory false bareWorld).Suits threeSteps ∧ s.trace threeSteps = t.trace threeSteps := by
  obtain ⟨s, hs⟩ : ∃ s, IsOpened bareWorld false (.folder ⟨"", ["data"]⟩) (loaded threeSteps) s :=
    exists_isOpened_bareWorld (by decide +kernel)
  obtain ⟨t, ht⟩ : ∃ t, IsOpened bareWorld false (.database "sqlite:///labels.db") (loaded threeSteps) t :=
    exists_isOpened_bareWorld (by decide +kernel)
  exact ⟨s, t, hs, ht, suits_threeSteps, trace_eq_trace hs ht suits_threeSteps⟩

end RuleLabels.Session
