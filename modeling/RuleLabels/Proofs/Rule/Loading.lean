import Mathlib.Tactic.Common
import RuleLabels.Proofs.Action
import RuleLabels.Proofs.Files
import RuleLabels.Proofs.Rule.Edit
import RuleLabels.Rule.File

/-!
# Loading rules from a file

Of the world, loading sees what is found under the name of the file, the time and the identifiers; and all
that it changes is how many identifiers are left.
-/

namespace RuleLabels.Rule

/-! ## Documents -/

theorem run_jsonDocument (l : Location) (text : String) :
    ∃ r, ∀ w, ExceptT.run (jsonDocument l text) w = (r, w) := by
  rw [jsonDocument]
  split
  · exact ⟨_, fun _ => rfl⟩
  · exact ⟨_, fun _ => rfl⟩
  · exact ⟨_, fun _ => rfl⟩

theorem run_yamlDocument (l : Location) (text : String) :
    ∃ r, ∀ w, ExceptT.run (yamlDocument l text) w = (r, w) := by
  rw [yamlDocument]
  split
  · exact ⟨_, fun _ => rfl⟩
  · exact ⟨_, fun _ => rfl⟩
  · exact ⟨_, fun _ => rfl⟩

/-- The document in a file depends on the content of the file. -/
theorem run_readDocument_of_content (l : Location) (c : Except FileError Content) :
    ∃ r, ∀ w, w.files.content l = c → ExceptT.run (readDocument l) w = (r, w) := by
  cases c with
  | error e =>
    refine ⟨.error (.unusableRules l.text (.file e)), fun w hw => ?_⟩
    rw [readDocument, Action.run_bind_ok (Action.run_get w), hw]
    rfl
  | ok c =>
    cases hdecoded : c.decoded with
    | error e =>
      refine ⟨.error (.unusableRules l.text (.notUtf8 e)), fun w hw => ?_⟩
      rw [readDocument, Action.run_bind_ok (Action.run_get w), hw]
      simp only [hdecoded]
      rfl
    | ok text =>
      obtain ⟨r, hr⟩ : ∃ r, ∀ w, ExceptT.run
          (if Text.lower l.suffix = ".json" then jsonDocument l text else yamlDocument l text) w = (r, w) := by
        split
        · exact run_jsonDocument l text
        · exact run_yamlDocument l text
      refine ⟨r, fun w hw => ?_⟩
      rw [readDocument, Action.run_bind_ok (Action.run_get w), hw]
      simp only [hdecoded]
      exact hr w

/-- The document in a file depends on what is found there. -/
theorem run_readDocument (l : Location) (found : Except FileFault Entry) :
    ∃ r, ∀ w, w.files.find l = found → ExceptT.run (readDocument l) w = (r, w) := by
  obtain ⟨c, hc⟩ : ∃ c, ∀ fs : Files, fs.find l = found → fs.content l = c := by
    rcases found with f | _ | ⟨number, c⟩
    · exact ⟨Files.fault l f, fun fs h => by rw [Files.content, h]⟩
    · exact ⟨Files.fault l .isADirectory, fun fs h => by rw [Files.content, h]⟩
    · exact ⟨.ok c, fun fs h => Files.content_of_find h⟩
  obtain ⟨r, hr⟩ := run_readDocument_of_content l c
  exact ⟨r, fun w hw => hr w (hc w.files hw)⟩

/-! ## Identifiers -/

theorem not_allBlank_idOf (id : String) : Text.allBlank (idOf id) = false := by
  have hrule : ("rule-" : String).toList.all Text.isBlank = false := by decide
  rw [idOf, Text.allBlank, String.toList_append, List.all_append, hrule, Bool.false_and]

theorem run_freshId (w : World) :
    ExceptT.run freshId w = (.ok (idOf w.ids.next), { w with ids := w.ids.rest }) := rfl

/-- Whether a written rule gets an identifier depends on the rule alone. -/
theorem run_identified (v : Value) (ids : IdSource) :
    ∃ v' ids', ∀ w, w.ids = ids → ExceptT.run (identified v) w = (.ok v', { w with ids := ids' }) := by
  rw [identified]
  split
  · split
    · refine ⟨withId (idOf ids.next) v, ids.rest, fun w hw => ?_⟩
      subst hw
      rfl
    · refine ⟨v, ids, fun w hw => ?_⟩
      subst hw
      rfl
  · refine ⟨v, ids, fun w hw => ?_⟩
    subst hw
    rfl

theorem run_identifiedEach (vs : List Value) (ids : IdSource) :
    ∃ vs' ids', ∀ w, w.ids = ids →
      ExceptT.run (identifiedEach vs) w = (.ok vs', { w with ids := ids' }) := by
  induction vs generalizing ids with
  | nil =>
    refine ⟨[], ids, fun w hw => ?_⟩
    subst hw
    rfl
  | cons v rest ih =>
    obtain ⟨v', ids₁, hv⟩ := run_identified v ids
    obtain ⟨rest', ids₂, hrest⟩ := ih ids₁
    refine ⟨v' :: rest', ids₂, fun w hw => ?_⟩
    rw [identifiedEach, Action.run_bind_ok (hv w hw), Action.run_bind_ok (hrest _ rfl)]
    rfl

/-! ## Files of rules -/

/-- What is loaded depends on what is found, the time and the identifiers. -/
theorem run_load (l : Location) (found : Except FileFault Entry) (now : Timestamp) (ids : IdSource) :
    ∃ r ids', (∀ rules, r = .ok rules → AreOrderly rules) ∧
      ∀ w, w.files.find l = found → w.now = now → w.ids = ids →
        ExceptT.run (load l) w = (r, { w with ids := ids' }) := by
  obtain ⟨document, hdocument⟩ := run_readDocument l found
  cases document with
  | error e =>
    refine ⟨.error e, ids, fun _ h => (nomatch h), fun w hw _ hids => ?_⟩
    subst hids
    exact Action.run_bind_error (hdocument w hw)
  | ok v =>
    cases hitems : itemsOf? v with
    | none =>
      refine ⟨.error (.unusableRules l.text .noRules), ids, fun _ h => (nomatch h), fun w hw _ hids => ?_⟩
      subst hids
      rw [load, Action.run_bind_ok (hdocument w hw)]
      simp only [hitems]
      rfl
    | some items =>
      obtain ⟨items', ids', hidentified⟩ := run_identifiedEach items ids
      refine ⟨(readAll now (.array items') .document).mapError .ofInvalid, ids', ?_, ?_⟩
      · intro rules h
        cases hread : readAll now (.array items') .document with
        | error e =>
          rw [hread] at h
          exact nomatch h
        | ok rules' =>
          rw [hread] at h
          cases h
          exact areOrderly_of_readAll hread
      · intro w hw hnow hids
        rw [load, Action.run_bind_ok (hdocument w hw)]
        simp only [hitems]
        rw [Action.run_bind_ok (hidentified w hids), Action.run_bind_ok (Action.run_now _), hnow]
        cases readAll now (.array items') .document with
        | error e => rfl
        | ok rules => rfl

end RuleLabels.Rule
