import Mathlib.Tactic.Common
import RuleLabels.Proofs.Store.Failing

/-!
# Files that a store cannot use

A folder may hold anything under the names of a store's files.  Whatever the bytes are, reading and adding
fail for a reason of the store: the file is unreadable, no array, or holds a wrong rule or record.  Two reasons
are none of the store's, and both come out as they are: bytes that spell no text, and a document with a record
that has no bytes.  No failure changes a file.

* `readDocument_failsWith`: what reading a file may come to;
* `failsWith_or`: what reading rules, reading records and adding a record may come to;
* `rules_fail_undecoded`: one byte that spells no text, and a failure that is not the store's.
-/

namespace RuleLabels

/-- A failure of a store. -/
def Failure.IsOfStore (f : Failure) : Prop := ∃ cause, f = .store cause

namespace Files

/-- There is a place for a file: the folder that would hold it is there. -/
def HasPlace (fs : Files) (l : Location) : Prop := ∃ key, fs.key l = .ok key

/-- The bytes of a file spell no text, for an error in them. -/
def IsNoText (fs : Files) (l : Location) (e : Text.Utf8Error) : Prop :=
  ∃ c, fs.content l = .ok c ∧ c.decoded = .error e

/-- The text of a file has no integer with too many digits and no collection inside too many others. -/
def IsWithinLimits (fs : Files) (l : Location) : Prop :=
  ∀ c text e, fs.content l = .ok c → c.decoded = .ok text → Json.read text = .error e →
    ∃ fault position, e = .malformed fault position

variable {fs : Files} {l : Location}

/-- Where there is a place for a file, only a folder or nothing at all may be in the way of reading it. -/
theorem HasPlace.fault_of_content (h : fs.HasPlace l) {e : FileError} (he : fs.content l = .error e) :
    e.fault = .notFound ∨ e.fault = .isADirectory := by
  obtain ⟨key, hkey⟩ := h
  rw [content, find, hkey] at he
  simp only [bind, Except.bind] at he
  cases hentry : fs.entryAt? key with
  | none =>
    rw [hentry] at he
    cases he
    exact .inl rfl
  | some entry =>
    rw [hentry] at he
    cases entry with
    | folder =>
      cases he
      exact .inr rfl
    | file number c => cases he

end Files

namespace Action

variable {α β : Type} {w : World}

/-- An action fails for a reason of a store or with one of some other failures, and with each of these where
it applies. -/
structure FailsWith (x : Action α) (w : World) (others : Failure → Prop) : Prop where
  fails : ∀ f, (ExceptT.run x w).1 = .error f → f.IsOfStore ∨ others f
  others : ∀ f, others f → (ExceptT.run x w).1 = .error f

/-- What comes after a reading action and fails for reasons of a store alone adds no other failures. -/
theorem FailsWith.bind {x : Action α} {f : α → Action β} {others : Failure → Prop}
    (h : x.FailsWith w others) (hx : x.Reads)
    (hf : ∀ a e, (ExceptT.run (f a) w).1 = .error e → e.IsOfStore) : (x >>= f).FailsWith w others := by
  have hrun := hx.run w
  refine ⟨fun e he => ?_, fun e he => ?_⟩
  · cases hr : (ExceptT.run x w).1 with
    | ok a =>
      rw [hr] at hrun
      rw [run_bind_ok hrun] at he
      exact .inl (hf a e he)
    | error e' =>
      rw [hr] at hrun
      rw [run_bind_error hrun] at he
      cases he
      exact h.fails _ hr
  · rw [h.others e he] at hrun
    rw [run_bind_error hrun]

end Action

namespace FolderStore

variable {s : FolderStore} {l : Location} {w : World}

/-- The folder of a store is there, and there are places in it for its two files. -/
structure IsPlaced (s : FolderStore) (fs : Files) : Prop where
  rules : fs.HasPlace s.rulesFile
  records : fs.HasPlace s.recordsFile

/-- The failure for bytes that spell no text. -/
def IsUndecoded (w : World) (l : Location) (f : Failure) : Prop :=
  ∃ e, w.files.IsNoText l e ∧ f = .notUtf8 e

/-- The failure for records that cannot be written together with one more. -/
def IsUnwritten (s : FolderStore) (r : Record) (w : World) (f : Failure) : Prop :=
  ∃ items refusal, ExceptT.run s.recordItems w = (.ok items, w) ∧
    Json.refusal? (.file s.maxDepth) (.array (items ++ [r.toValue])) = some refusal ∧
    f = .unwritable refusal

/-! ## Reading -/

theorem readDocument_failsWith (hplace : w.files.HasPlace l) (hlimits : w.files.IsWithinLimits l) :
    (readDocument l).FailsWith w (IsUndecoded w l) := by
  rw [readDocument]
  refine ⟨fun f hf => ?_, ?_⟩
  · rw [Action.run_bind_ok (Action.run_get w)] at hf
    dsimp only at hf
    cases hc : w.files.content l with
    | error e =>
      rw [hc] at hf
      rcases hplace.fault_of_content hc with hfault | hfault
      · simp only [hfault] at hf
        cases hf
      · simp only [hfault] at hf
        cases hf
        exact .inl ⟨_, rfl⟩
    | ok c =>
      rw [hc] at hf
      split at hf
      · rename_i hdocument
        cases hdocument
      · cases hf
      · rename_i c' _ hcontent
        cases hcontent
        cases hdecoded : c.decoded with
        | error e =>
          rw [hdecoded] at hf
          cases hf
          exact .inr ⟨e, ⟨c, hc, hdecoded⟩, rfl⟩
        | ok text =>
          rw [hdecoded] at hf
          cases hread : Json.read text with
          | ok v =>
            simp only [hread] at hf
            cases hf
          | error e =>
            obtain ⟨fault, position, rfl⟩ := hlimits c text e hc hdecoded hread
            simp only [hread] at hf
            cases hf
            exact .inl ⟨_, rfl⟩
  · rintro f ⟨e, ⟨c, hc, hdecoded⟩, rfl⟩
    rw [Action.run_bind_ok (Action.run_get w), hc]
    cases c with
    | document v => cases hdecoded
    | _ =>
      dsimp only
      rw [hdecoded]
      rfl

theorem rules_failsWith (hplace : w.files.HasPlace s.rulesFile)
    (hlimits : w.files.IsWithinLimits s.rulesFile) :
    s.rules.FailsWith w (IsUndecoded w s.rulesFile) := by
  refine (readDocument_failsWith hplace hlimits).bind (reads_readDocument _) fun v e he => ?_
  rw [Action.run_bind_ok (Action.run_now w)] at he
  split at he
  · cases he
  · cases he
    exact ⟨_, rfl⟩

theorem recordItems_failsWith (hplace : w.files.HasPlace s.recordsFile)
    (hlimits : w.files.IsWithinLimits s.recordsFile) :
    s.recordItems.FailsWith w (IsUndecoded w s.recordsFile) := by
  refine (readDocument_failsWith hplace hlimits).bind (reads_readDocument _) fun v e he => ?_
  split at he
  · cases he
  · cases he
    exact ⟨_, rfl⟩

theorem records_failsWith (hplace : w.files.HasPlace s.recordsFile)
    (hlimits : w.files.IsWithinLimits s.recordsFile) :
    s.records.FailsWith w (IsUndecoded w s.recordsFile) := by
  refine (recordItems_failsWith hplace hlimits).bind (reads_recordItems s) fun items e he => ?_
  split at he
  · cases he
  · cases he
    exact ⟨_, rfl⟩

/-! ## Adding -/

/-- What is read as records is no folder. -/
theorem entryAt?_ne_folder_of_recordItems {key : FileKey} (hkey : w.files.key s.recordsFile = .ok key)
    {items : List Value} (hitems : ExceptT.run s.recordItems w = (.ok items, w)) :
    w.files.entryAt? key ≠ some .folder := by
  intro hfolder
  have hcontent : w.files.content s.recordsFile = .error ⟨.isADirectory, s.recordsFile.text⟩ := by
    rw [Files.content, Files.find_eq_ok_iff.2 ⟨key, hkey, hfolder⟩]
    rfl
  rw [recordItems, readDocument, bind_assoc, Action.run_bind_ok (Action.run_get w), hcontent] at hitems
  cases hitems

theorem append_failsWith (hplace : w.files.HasPlace s.recordsFile)
    (hlimits : w.files.IsWithinLimits s.recordsFile) (r : Record) :
    (s.append r).FailsWith w fun f => IsUndecoded w s.recordsFile f ∨ s.IsUnwritten r w f := by
  have hread := recordItems_failsWith hplace hlimits
  obtain ⟨key, hkey⟩ := hplace
  have hrun := (reads_recordItems s).run w
  refine ⟨fun f hf => ?_, ?_⟩
  · cases hr : (ExceptT.run s.recordItems w).1 with
    | error e =>
      rw [hr] at hrun
      rw [append, Action.run_bind_error hrun] at hf
      cases hf
      exact (hread.fails _ hr).imp_right .inl
    | ok items =>
      rw [hr] at hrun
      rw [append, Action.run_bind_ok hrun] at hf
      cases hrefusal : Json.refusal? (.file s.maxDepth) (.array (items ++ [r.toValue])) with
      | none =>
        obtain ⟨fs, hwrite, -⟩ :=
          run_writeDocument_ok hrefusal hkey (entryAt?_ne_folder_of_recordItems hkey hrun)
        rw [hwrite] at hf
        cases hf
      | some refusal =>
        obtain ⟨w', hwrite⟩ := run_writeDocument_of_refusal? hrefusal hkey
        rw [hwrite] at hf
        cases hf
        exact .inr (.inr ⟨items, refusal, hrun, hrefusal, rfl⟩)
  · rintro f (hf | ⟨items, refusal, hitems, hrefusal, rfl⟩)
    · rw [hread.others f hf] at hrun
      rw [append, Action.run_bind_error hrun]
    · obtain ⟨w', hwrite⟩ := run_writeDocument_of_refusal? hrefusal hkey
      rw [append, Action.run_bind_ok hitems, hwrite]

/-- **A store cannot use a file for two reasons that are not its own.**  Whatever the two files of a store
hold, as long as they keep to the limits of the reader of documents: reading rules or records fails for a reason
of the store, except that bytes that spell no text are the failure of their decoding.  Adding a record fails
for a reason of the store, except for such bytes, and for records that cannot be written together with the
new one.  Reading changes nothing, and whatever is not added leaves every file as it was. -/
theorem failsWith_or (h : s.IsPlaced w.files) (hrules : w.files.IsWithinLimits s.rulesFile)
    (hrecords : w.files.IsWithinLimits s.recordsFile) :
    (s.rules.FailsWith w (IsUndecoded w s.rulesFile) ∧ (ExceptT.run s.rules w).2 = w) ∧
    (s.records.FailsWith w (IsUndecoded w s.recordsFile) ∧ (ExceptT.run s.records w).2 = w) ∧
    ∀ r, ((s.append r).FailsWith w fun f => IsUndecoded w s.recordsFile f ∨ s.IsUnwritten r w f) ∧
      ∀ f w', ExceptT.run (s.append r) w = (.error f, w') →
        ∀ l, w'.files.content l = w.files.content l := by
  refine ⟨⟨rules_failsWith h.rules hrules, (reads_rules s).world w⟩,
    ⟨records_failsWith h.records hrecords, (reads_records s).world w⟩,
    fun r => ⟨append_failsWith h.records hrecords r, fun f w' hf l => ?_⟩⟩
  exact Files.content_congr (run_append_eq_error hf).entries l

/-- A folder `data` with a file of rules that is one byte, which spells no text. -/
def strayFiles : Files :=
  match Files.empty.place ⟨"", ["data", "rules.json"]⟩ (.bytes [0xFF]) with
  | .ok fs => fs
  | .error (_, fs) => fs

/-- Surroundings with such a folder. -/
def strayWorld : World := ⟨.epoch, ⟨0, 0⟩, [], strayFiles, .everything⟩

/-- The store in that folder. -/
def strayStore : FolderStore := ⟨⟨"", ["data"]⟩, none⟩

/-- A content is no text for a reason. -/
def isNoTextFor (e : Text.Utf8Error) (c : Content) : Bool :=
  match c.decoded with
  | .error e' => e' = e
  | .ok _ => false

theorem isNoText_stray : strayWorld.files.IsNoText strayStore.rulesFile ⟨.badStart, 0, 1, 0xFF⟩ := by
  have h : (strayWorld.files.content strayStore.rulesFile).toOption.any
      (isNoTextFor ⟨.badStart, 0, 1, 0xFF⟩) = true := by
    decide +kernel
  obtain ⟨c, hc, hdecoded⟩ := (Option.any_eq_true _ _).1 h
  refine ⟨c, except_toOption_eq_some.1 hc, ?_⟩
  rw [isNoTextFor] at hdecoded
  split at hdecoded
  · rename_i e he
    rw [he, of_decide_eq_true hdecoded]
  · cases hdecoded

theorem isPlaced_stray : strayStore.IsPlaced strayWorld.files where
  rules := except_isOk_eq_true.1 (by decide +kernel)
  records := except_isOk_eq_true.1 (by decide +kernel)

/-- What spells no text is within all limits. -/
theorem isWithinLimits_stray : strayWorld.files.IsWithinLimits strayStore.rulesFile := by
  intro c text e hc htext
  obtain ⟨c', hc', hdecoded⟩ := isNoText_stray
  cases hc.symm.trans hc'
  cases htext.symm.trans hdecoded

/-- What is missing is within all limits. -/
theorem isWithinLimits_missing : strayWorld.files.IsWithinLimits strayStore.recordsFile := by
  intro c text e hc
  have hmissing : (strayWorld.files.content strayStore.recordsFile).isOk = false := by decide +kernel
  rw [hc] at hmissing
  cases hmissing

theorem failsWith_or_stray :
    strayStore.IsPlaced strayWorld.files ∧ strayWorld.files.IsWithinLimits strayStore.rulesFile ∧
    strayWorld.files.IsWithinLimits strayStore.recordsFile ∧
    (ExceptT.run strayStore.rules strayWorld).1 = .error (.notUtf8 ⟨.badStart, 0, 1, 0xFF⟩) ∧
    ∀ f, (ExceptT.run strayStore.records strayWorld).1 = .error f →
      f.IsOfStore ∨ IsUndecoded strayWorld strayStore.recordsFile f :=
  have h := failsWith_or isPlaced_stray isWithinLimits_stray isWithinLimits_missing
  ⟨isPlaced_stray, isWithinLimits_stray, isWithinLimits_missing,
    h.1.1.others _ ⟨_, isNoText_stray, rfl⟩, h.2.1.1.fails⟩

/-- Not every failure to read the files of a store is one of the store. -/
theorem rules_fail_undecoded :
    ¬ ∀ (s : FolderStore) (w : World), s.IsPlaced w.files → w.files.IsWithinLimits s.rulesFile →
      ∀ f, (ExceptT.run s.rules w).1 = .error f → f.IsOfStore := by
  intro h
  have hfails := (rules_failsWith isPlaced_stray.rules isWithinLimits_stray).others _
    ⟨_, isNoText_stray, rfl⟩
  obtain ⟨cause, hcause⟩ := h _ _ isPlaced_stray isWithinLimits_stray _ hfails
  cases hcause

end FolderStore

end RuleLabels
