import Mathlib.Tactic.Common
import RuleLabels.Proofs.Reading

/-!
# What stays

Stores never remove a folder or a file, and never make one of the other.  Where folders and files stay, names
lead where they led before, and a folder that was made needs not be made again.
-/

namespace RuleLabels.Files

/-- Folders stay folders, and files stay files. -/
structure Stays (fs fs' : Files) : Prop where
  folder : ∀ {key}, fs.entryAt? key = some .folder → fs'.entryAt? key = some .folder
  file : ∀ {key n c}, fs.entryAt? key = some (.file n c) → ∃ n' c', fs'.entryAt? key = some (.file n' c')

namespace Stays

variable {fs fs' fs'' : Files}

theorem trans (h : fs.Stays fs') (h' : fs'.Stays fs'') : fs.Stays fs'' where
  folder he := h'.folder (h.folder he)
  file he := by
    obtain ⟨n, c, he'⟩ := h.file he
    exact h'.file he'

theorem of_grows (h : fs.Grows fs') : fs.Stays fs' where
  folder he := h _ _ he
  file he := ⟨_, _, h _ _ he⟩

theorem of_entries (h : fs'.entries = fs.entries) : fs.Stays fs' :=
  .of_grows fun key _ he => (entryAt?_congr h key).trans he

/-- A file may take the place of a file. -/
theorem of_puts {key : FileKey} {number : Nat} {c : Content} (h : fs.Puts fs' key number c)
    (hne : fs.entryAt? key ≠ some .folder) : fs.Stays fs' where
  folder {key'} he := by
    have hkey : key' ≠ key := by
      rintro rfl
      exact hne he
    rw [h key', if_neg hkey, he]
  file {key' n d} he := by
    by_cases hkey : key' = key
    · exact ⟨number, c, by rw [h key', if_pos hkey]⟩
    · exact ⟨n, d, by rw [h key', if_neg hkey, he]⟩

theorem key (h : fs.Stays fs') {l : Location} {key : FileKey} (hk : fs.key l = .ok key) :
    fs'.key l = .ok key := key_of_folders (fun _ => h.folder) hk

/-- Something is still there. -/
theorem has (h : fs.Stays fs') {l : Location} (hl : fs.has l = true) : fs'.has l = true := by
  rw [Files.has] at hl ⊢
  cases hfind : fs.find l with
  | error f =>
    rw [hfind] at hl
    cases hl
  | ok e =>
    obtain ⟨key, hk, he⟩ := find_eq_ok_iff.1 hfind
    cases e with
    | folder => rw [find_eq_ok_iff.2 ⟨key, h.key hk, h.folder he⟩]; rfl
    | file n c =>
      obtain ⟨n', c', he'⟩ := h.file he
      rw [find_eq_ok_iff.2 ⟨key, h.key hk, he'⟩]
      rfl

end Stays

/-! ## Folders that were made -/

theorem makeAlong_of_stays {fs fs' fs'' : Files} {missing missing' : Bool} {key : FileKey} {parts : List String}
    (h : fs.makeAlong missing key parts = .ok fs') (hstays : fs'.Stays fs'') :
    fs''.makeAlong missing' key parts = .ok fs'' := by
  induction parts generalizing fs missing key with
  | nil => rfl
  | cons part rest ih =>
    rw [makeAlong] at h ⊢
    split at h
    · cases h
    · rename_i hname
      rw [if_neg hname]
      dsimp only at h ⊢
      split at h
      · rename_i hfolder
        rw [hstays.folder ((makeAlong_grows h).1 _ _ hfolder)]
        exact ih h
      · cases h
      · rename_i hnone
        have hmade : (fs.setFolder (if part = ".." then stepUp key else key ++ [part])).entryAt?
            (if part = ".." then stepUp key else key ++ [part]) = some .folder := by
          rw [entryAt?_setFolder fs hnone, if_pos rfl]
        rw [hstays.folder ((makeAlong_grows h).1 _ _ hmade)]
        exact ih h

/-- A folder that was made is not made again. -/
theorem makeFolder_of_stays {fs fs' fs'' : Files} {l : Location} (h : fs.makeFolder l = .ok fs')
    (hstays : fs'.Stays fs'') : fs''.makeFolder l = .ok fs'' := by
  rw [makeFolder] at h ⊢
  split at h
  · cases h
  · split at h
    · rename_i hmade
      cases h
      rw [makeAlong_of_stays hmade hstays]
    · cases h

end RuleLabels.Files
