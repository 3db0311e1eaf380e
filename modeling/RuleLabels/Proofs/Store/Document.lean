import Mathlib.Tactic.Common
import RuleLabels.Proofs.Json.Writing
import RuleLabels.Proofs.Reading
import RuleLabels.Store.Folder

/-!
# Documents are replaced as a whole

A folder store writes a draft and puts it in the place of the file.  Either the file has the new document
and nothing else is different, or the store says why not and every entry is as it was: the draft is gone.

The file keeps the document as such.  This makes no difference: its text, which is what others read, is read back as
the document (`read_of_run_writeDocument`).
-/

namespace RuleLabels.FolderStore

variable {s : FolderStore} {l : Location} {v : Value} {w w' : World} {key : FileKey}

theorem run_makeDraft (hk : w.files.key l = .ok key) :
    ExceptT.run (Action.makeDraft l) w =
      (.ok (w.files.draftKey key), { w with files := w.files.setContent (w.files.draftKey key) (.text "") }) := by
  rw [Action.makeDraft, Action.run_bind_ok (Action.run_get w), Files.makeDraft, hk]
  rfl

theorem run_fill (draft : FileKey) (h : Json.refusal? (.file s.maxDepth) v = none) :
    ExceptT.run (s.fill draft v) w =
      (.ok (), { w with files := w.files.setContent draft (.document v) }) := by
  rw [fill, h]
  exact Action.run_changeFiles_ok rfl

/-- How a document is written. -/
theorem run_writeDocument (s : FolderStore) (l : Location) (v : Value) (w : World) :
    ExceptT.run (s.writeDocument l v) w =
      match w.files.key l with
      | .error f => (.error (.file ⟨f, l.text⟩), w)
      | .ok key =>
        let draft := w.files.draftKey key
        let filled := w.files.withDraft key (.document v)
        match Json.refusal? (.file s.maxDepth) v, w.files.entryAt? key with
        | some r, _ =>
          (.error (.unwritable r),
            { w with files := (w.files.setContent draft (.text "")).discard draft })
        | none, some .folder =>
          (.error (.file ⟨.isADirectory, l.text⟩), { w with files := filled.discard draft })
        | none, _ => (.ok (), { w with files := filled.move draft key }) := by
  rw [writeDocument]
  cases hk : w.files.key l with
  | error f =>
    refine Action.run_bind_error ?_
    rw [Action.makeDraft, Action.run_bind_ok (Action.run_get w), Files.makeDraft, hk]
    rfl
  | ok key =>
    rw [Action.run_bind_ok (run_makeDraft hk), Action.run_tryCatch]
    dsimp only
    cases hr : Json.refusal? (.file s.maxDepth) v with
    | some r =>
      have hfill (world : World) : ExceptT.run (s.fill (w.files.draftKey key) v) world =
          (.error (.unwritable r), world) := by
        rw [fill, hr]
        rfl
      rw [Action.run_bind_error (hfill _)]
      rfl
    | none =>
      rw [Action.run_bind_ok (run_fill _ hr)]
      cases he : w.files.entryAt? key with
      | none =>
        rw [Action.run_changeFiles_ok (Files.replace_withDraft _ hk (by simp [he]))]
      | some e =>
        cases e with
        | file number c => rw [Action.run_changeFiles_ok (Files.replace_withDraft _ hk (by simp [he]))]
        | folder =>
          rw [Action.run_changeFiles_error (Files.replace_withDraft_folder _ hk he)]
          rfl

/-! ## What comes of it -/

/-- A document that is written is the only entry that is not as before, and no folder was there. -/
theorem run_writeDocument_eq_ok (h : ExceptT.run (s.writeDocument l v) w = (.ok (), w')) :
    ∃ key fs, w' = { w with files := fs } ∧ w.files.key l = .ok key ∧ w.files.entryAt? key ≠ some .folder ∧
      w.files.Puts fs key w.files.next (.document v) := by
  rw [run_writeDocument] at h
  split at h
  · cases h
  · rename_i key hk
    dsimp only at h
    split at h
    · cases h
    · cases h
    · rename_i hfolder
      cases h
      have hne : w.files.entryAt? key ≠ some .folder := fun he => hfolder he
      exact ⟨key, _, rfl, hk, hne, .of_entries hne (Files.entries_move_draft _ _ _)⟩

/-- A document that is written is not refused. -/
theorem refusal?_of_run_writeDocument (h : ExceptT.run (s.writeDocument l v) w = (.ok (), w')) :
    Json.refusal? (.file s.maxDepth) v = none := by
  rw [run_writeDocument] at h
  split at h
  · cases h
  · dsimp only at h
    split at h
    · cases h
    · cases h
    · rename_i hnone _
      exact hnone

/-- A document may be written in the place of a file, and where nothing is. -/
theorem run_writeDocument_ok (hr : Json.refusal? (.file s.maxDepth) v = none)
    (hk : w.files.key l = .ok key) (he : w.files.entryAt? key ≠ some .folder) :
    ∃ fs, ExceptT.run (s.writeDocument l v) w = (.ok (), { w with files := fs }) ∧
      w.files.Puts fs key w.files.next (.document v) := by
  have hputs := Files.Puts.of_entries he (Files.entries_move_draft w.files key (.document v))
  refine ⟨_, ?_, hputs⟩
  rw [run_writeDocument, hk]
  dsimp only
  rw [hr]
  split
  · rename_i h
    cases h
  · rename_i hfolder
    exact absurd hfolder he
  · rfl

/-- A document that is refused is not written. -/
theorem run_writeDocument_of_refusal? {r : Json.Refusal} (hr : Json.refusal? (.file s.maxDepth) v = some r)
    (hk : w.files.key l = .ok key) :
    ∃ w', ExceptT.run (s.writeDocument l v) w = (.error (.unwritable r), w') := by
  rw [run_writeDocument, hk]
  dsimp only
  rw [hr]
  exact ⟨_, rfl⟩

/-- Where a document is refused, nothing is left of its draft. -/
theorem run_writeDocument_eq_error {e : Failure} (h : ExceptT.run (s.writeDocument l v) w = (.error e, w')) :
    w.Alike w' := by
  rw [run_writeDocument] at h
  split at h
  · cases h
    exact .refl w
  · rename_i key hk
    dsimp only at h
    split at h
    · cases h
      exact ⟨rfl, Files.entries_discard_of_filter _ _ (Files.filter_setContent _ _ _),
        Files.removed_setContent _ _ _⟩
    · cases h
      exact ⟨rfl, Files.entries_discard_of_filter _ _ (Files.filter_withDraft _ _ _),
        Files.removed_withDraft _ _ _⟩
    · cases h

/-! ## The text of a document -/

/-- A document that is written is read from its file, and if it is exact, it is read back from the text of the file
too. -/
theorem read_of_run_writeDocument (h : ExceptT.run (s.writeDocument l v) w = (.ok (), w')) :
    ExceptT.run (readDocument l) w' = (.ok v, w') ∧
      (v.isExact = true → v.nesting ≤ Json.maxDepth →
        ∃ c text, w'.files.content l = .ok c ∧ c.decoded = .ok text ∧ Json.read text = .ok v) := by
  obtain ⟨key, fs, rfl, hk, hne, hputs⟩ := run_writeDocument_eq_ok h
  have hkey : fs.key l = .ok key := by
    cases he : w.files.entryAt? key with
    | none => exact (hputs.grows he).key hk
    | some e =>
      cases e with
      | folder => exact absurd he hne
      | file number c => exact (hputs.key_of_file he l).trans hk
  have hcontent := Files.content_of_find (hputs.find hkey)
  refine ⟨?_, fun hexact hnesting => ⟨_, _, hcontent, rfl,
    Json.read_written Json.Layout.isBlank_indented hexact hnesting⟩⟩
  rw [readDocument, Action.run_bind_ok (Action.run_get _), hcontent]
  rfl

end RuleLabels.FolderStore
