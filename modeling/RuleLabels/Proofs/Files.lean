import Mathlib.Data.List.Nodup
import Mathlib.Data.List.Perm.Subperm
import Mathlib.Tactic.Common
import RuleLabels.Files
import RuleLabels.Proofs.Checked

/-!
# What writing a file changes

A file that is there keeps its number when it is written, and nothing else changes: not where a name leads,
and not what another file holds.  A new file leaves every name that led somewhere before.

* `find_write_of_find`: writing a file that is there;
* `write_of_missing`: writing a file that was not there;
* `makeFolder_grows`: making a folder adds folders and no file;
* `entries_move_draft`: a draft that takes the place of a file leaves nothing else, and
  `entries_discard_of_filter`: one that is discarded leaves nothing;
* `contentOf?_of_find`: an open file is found by its number.
-/

namespace RuleLabels.Files

/-! ## Entries -/

theorem lookup_map_set_ne {key key' : FileKey} (hne : key' ≠ key) (e : Entry)
    (entries : List (FileKey × Entry)) :
    (entries.map fun x => if x.1 = key then (key, e) else x).lookup key' = entries.lookup key' := by
  induction entries with
  | nil => rfl
  | cons x rest ih =>
    obtain ⟨k, f⟩ := x
    by_cases hk : k = key
    · have hbeq : (key' == key) = false := beq_eq_false_iff_ne.2 hne
      have hbeq' : (key' == k) = false := by rw [hk, hbeq]
      simp only [List.map_cons, if_pos hk, List.lookup_cons, hbeq, hbeq', ih]
    · simp only [List.map_cons, if_neg hk, List.lookup_cons, ih]

theorem lookup_map_set_self {key : FileKey} (e : Entry) {entries : List (FileKey × Entry)}
    (h : (entries.lookup key).isSome = true) :
    (entries.map fun x => if x.1 = key then (key, e) else x).lookup key = some e := by
  induction entries with
  | nil => exact nomatch h
  | cons x rest ih =>
    obtain ⟨k, f⟩ := x
    by_cases hk : k = key
    · rw [List.map_cons, if_pos hk, List.lookup_cons_self]
    · have hbeq : (key == k) = false := beq_eq_false_iff_ne.2 (Ne.symm hk)
      simp only [List.lookup_cons, hbeq] at h
      simp only [List.map_cons, if_neg hk, List.lookup_cons, hbeq, ih h]

theorem lookup_putEntry (key key' : FileKey) (e : Entry) (entries : List (FileKey × Entry)) :
    (putEntry key e entries).lookup key' = if key' = key then some e else entries.lookup key' := by
  rw [putEntry]
  split
  · rename_i h
    split
    · rename_i hk
      rw [hk, lookup_map_set_self e h]
    · rename_i hk
      rw [lookup_map_set_ne hk]
  · rename_i h
    rw [List.lookup_append]
    split
    · rename_i hk
      rw [hk, Option.not_isSome_iff_eq_none.1 h, List.lookup_cons_self]
      rfl
    · rename_i hk
      have hbeq : (key' == key) = false := beq_eq_false_iff_ne.2 hk
      simp only [List.lookup_cons, hbeq, List.lookup_nil, Option.or_none]

theorem isGiven_eq_false {fs : Files} {key : FileKey} (h : fs.entryAt? key ≠ some .folder) :
    isGiven key = false := by
  by_contra hg
  rw [Bool.not_eq_false] at hg
  exact h (by rw [entryAt?, hg, if_pos rfl])

theorem entryAt?_of_entries {fs fs' : Files} {key : FileKey} {e : Entry} (hg : isGiven key = false)
    (h : fs'.entries = putEntry key e fs.entries) (key' : FileKey) :
    fs'.entryAt? key' = if key' = key then some e else fs.entryAt? key' := by
  rw [entryAt?, entryAt?, h, lookup_putEntry]
  by_cases hk : key' = key
  · rw [hk, hg, if_pos rfl, if_pos rfl]
    rfl
  · rw [if_neg hk, if_neg hk]

/-- A file that is written keeps its number. -/
theorem entryAt?_setContent_of_file {fs : Files} {key : FileKey} {number : Nat} {c : Content}
    (h : fs.entryAt? key = some (.file number c)) (c' : Content) (key' : FileKey) :
    (fs.setContent key c').entryAt? key' =
      if key' = key then some (.file number c') else fs.entryAt? key' := by
  have hg : isGiven key = false := isGiven_eq_false fun hf => nomatch h.symm.trans hf
  refine entryAt?_of_entries hg ?_ key'
  rw [setContent]
  split
  · rename_i h'
    cases Option.some.inj (h.symm.trans h')
    rfl
  · rename_i hno
    exact absurd h (hno number c)

/-- A new file gets the next number. -/
theorem entryAt?_setContent_of_none {fs : Files} {key : FileKey} (h : fs.entryAt? key = none)
    (c : Content) (key' : FileKey) :
    (fs.setContent key c).entryAt? key' =
      if key' = key then some (.file fs.next c) else fs.entryAt? key' := by
  have hg : isGiven key = false := isGiven_eq_false fun hf => nomatch h.symm.trans hf
  refine entryAt?_of_entries hg ?_ key'
  rw [setContent]
  split
  · rename_i h'
    exact nomatch h.symm.trans h'
  · rfl

/-! ## Names -/

/-- A name that leads somewhere leads there as long as no folder on the way goes. -/
theorem follow_of_folders {fs fs' : Files}
    (h : ∀ key, fs.entryAt? key = some .folder → fs'.entryAt? key = some .folder) {start key : FileKey}
    {parts : List String} (hf : fs.follow start parts = .ok key) : fs'.follow start parts = .ok key := by
  induction parts generalizing start with
  | nil => exact hf
  | cons part rest ih =>
    rw [follow] at hf
    split at hf
    · exact nomatch hf
    · exact nomatch hf
    · rename_i hfolder
      rw [follow, h start hfolder]
      simp only
      split at hf
      · exact nomatch hf
      · rename_i hname
        rw [if_neg hname]
        exact ih hf

theorem key_of_folders {fs fs' : Files}
    (h : ∀ key, fs.entryAt? key = some .folder → fs'.entryAt? key = some .folder) {l : Location}
    {key : FileKey} (hk : fs.key l = .ok key) : fs'.key l = .ok key := by
  rw [Files.key] at hk ⊢
  split at hk
  · exact nomatch hk
  · exact follow_of_folders h hk

/-- Names lead to the same places where the same keys are those of folders and of files. -/
theorem follow_congr {fs fs' : Files} (hnone : ∀ key, fs.entryAt? key = none ↔ fs'.entryAt? key = none)
    (hfolder : ∀ key, fs.entryAt? key = some .folder ↔ fs'.entryAt? key = some .folder)
    (start : FileKey) (parts : List String) : fs'.follow start parts = fs.follow start parts := by
  induction parts generalizing start with
  | nil => rfl
  | cons part rest ih =>
    rw [follow, follow]
    cases h : fs.entryAt? start with
    | none => rw [(hnone start).1 h]
    | some e =>
      cases e with
      | folder =>
        rw [(hfolder start).1 h]
        simp only [ih]
      | file number c =>
        cases h' : fs'.entryAt? start with
        | none => exact nomatch h.symm.trans ((hnone start).2 h')
        | some e' =>
          cases e' with
          | folder => exact nomatch h.symm.trans ((hfolder start).2 h')
          | file number' c' => rfl

/-! ## Finding -/

theorem find_eq_ok_iff {fs : Files} {l : Location} {e : Entry} :
    fs.find l = .ok e ↔ ∃ key, fs.key l = .ok key ∧ fs.entryAt? key = some e := by
  rw [find, except_bind_eq_ok]
  refine exists_congr fun key => and_congr_right fun _ => ?_
  cases fs.entryAt? key with
  | none => simp
  | some e' => simp

theorem content_of_find {fs : Files} {l : Location} {number : Nat} {c : Content}
    (h : fs.find l = .ok (.file number c)) : fs.content l = .ok c := by
  rw [content, h]

theorem find_of_content {fs : Files} {l : Location} {c : Content} (h : fs.content l = .ok c) :
    ∃ number, fs.find l = .ok (.file number c) := by
  rw [content] at h
  split at h
  · exact nomatch h
  · exact nomatch h
  · rename_i number c' hfind
    cases h
    exact ⟨number, hfind⟩

theorem lt_next_of_find {fs : Files} {l : Location} {number : Nat} {c : Content}
    (h : fs.find l = .ok (.file number c)) : number < fs.next := by
  obtain ⟨key, -, he⟩ := find_eq_ok_iff.1 h
  exact fs.numbered.below _ (mem_of_lookup (lookup_of_entryAt? he)) number rfl

theorem numberAt?_of_find {fs : Files} {l : Location} {number : Nat} {c : Content}
    (h : fs.find l = .ok (.file number c)) : fs.numberAt? l = some number := by
  rw [numberAt?, h]

theorem find_of_numberAt? {fs : Files} {l : Location} {number : Nat} (h : fs.numberAt? l = some number) :
    ∃ c, fs.find l = .ok (.file number c) := by
  rw [numberAt?] at h
  split at h
  · rename_i c hfind
    cases h
    exact ⟨c, hfind⟩
  · cases h

/-- An open file is found by its number. -/
theorem contentOf?_of_find {fs : Files} {l : Location} {number : Nat} {c : Content}
    (h : fs.find l = .ok (.file number c)) : fs.contentOf? number = some c := by
  obtain ⟨key, -, he⟩ := find_eq_ok_iff.1 h
  have hmem := mem_of_lookup (lookup_of_entryAt? he)
  rw [contentOf?]
  cases hs : fs.entries.findSome? fun x => x.2.contentIf? number with
  | none =>
    have hnone := List.findSome?_eq_none_iff.1 hs _ hmem
    rw [Entry.contentIf?, if_pos rfl] at hnone
    exact nomatch hnone
  | some c' =>
    obtain ⟨⟨key', e'⟩, hmem', hc'⟩ := List.exists_of_findSome?_eq_some hs
    cases e' with
    | folder => exact nomatch hc'
    | file number' c'' =>
      rw [Entry.contentIf?] at hc'
      split at hc'
      · rename_i hn
        cases fs.numbered.eq_of_number hmem hmem' rfl (congrArg some hn)
        cases hc'
        rfl
      · exact nomatch hc'

/-! ## Putting a file -/

/-- Files are others with one file put at a key. -/
def Puts (fs fs' : Files) (key : FileKey) (number : Nat) (c : Content) : Prop :=
  ∀ key', fs'.entryAt? key' = if key' = key then some (.file number c) else fs.entryAt? key'

namespace Puts

variable {fs fs' : Files} {key : FileKey} {number : Nat} {c : Content} {l : Location}

theorem of_entries (h : fs.entryAt? key ≠ some .folder)
    (hentries : fs'.entries = putEntry key (.file number c) fs.entries) : fs.Puts fs' key number c :=
  entryAt?_of_entries (isGiven_eq_false h) hentries

theorem find (h : fs.Puts fs' key number c) (hk : fs'.key l = .ok key) :
    fs'.find l = .ok (.file number c) := by
  refine find_eq_ok_iff.2 ⟨key, hk, ?_⟩
  rw [h key, if_pos rfl]

/-- A file in the place of another changes no name. -/
theorem key_of_file (h : fs.Puts fs' key number c) {number' : Nat} {c' : Content}
    (he : fs.entryAt? key = some (.file number' c')) (l : Location) : fs'.key l = fs.key l := by
  rw [Files.key, Files.key]
  split
  · rfl
  · refine follow_congr (fun key' => ?_) (fun key' => ?_) _ _
    · rw [h key']
      by_cases hkey : key' = key
      · simp [hkey, he]
      · rw [if_neg hkey]
    · rw [h key']
      by_cases hkey : key' = key
      · simp [hkey, he]
      · rw [if_neg hkey]

/-- A file in the place of another is all that is found to be different. -/
theorem find_of_file (h : fs.Puts fs' key number c) {number' : Nat} {c' : Content}
    (he : fs.entryAt? key = some (.file number' c')) {l : Location}
    (hne : ∀ n d, fs.find l = .ok (.file n d) → n ≠ number') : fs'.find l = fs.find l := by
  rw [Files.find, Files.find, h.key_of_file he]
  cases hk : fs.key l with
  | error f => rfl
  | ok key' =>
    have hkey : key' ≠ key := by
      rintro rfl
      exact hne number' c' (find_eq_ok_iff.2 ⟨key', hk, he⟩) rfl
    simp only [bind, Except.bind, h key', if_neg hkey]

end Puts

/-! ## Growing -/

/-- Every entry of some files is there in others. -/
def Grows (fs fs' : Files) : Prop := ∀ key e, fs.entryAt? key = some e → fs'.entryAt? key = some e

theorem Grows.refl (fs : Files) : fs.Grows fs := fun _ _ h => h

theorem Grows.trans {fs fs' fs'' : Files} (h : fs.Grows fs') (h' : fs'.Grows fs'') : fs.Grows fs'' :=
  fun key e he => h' key e (h key e he)

theorem Grows.key {fs fs' : Files} (h : fs.Grows fs') {l : Location} {key : FileKey}
    (hk : fs.key l = .ok key) : fs'.key l = .ok key := key_of_folders (fun key' => h key' .folder) hk

/-- What was found is found where files were only added. -/
theorem Grows.find {fs fs' : Files} (h : fs.Grows fs') {l : Location} {e : Entry} (he : fs.find l = .ok e) :
    fs'.find l = .ok e := by
  obtain ⟨key, hk, he⟩ := find_eq_ok_iff.1 he
  exact find_eq_ok_iff.2 ⟨key, h.key hk, h key e he⟩

/-- A file that is put where nothing was hides nothing. -/
theorem Puts.grows {fs fs' : Files} {key : FileKey} {number : Nat} {c : Content}
    (h : fs.Puts fs' key number c) (hnone : fs.entryAt? key = none) : fs.Grows fs' := by
  intro key' e he
  have hkey : key' ≠ key := by
    rintro rfl
    exact nomatch hnone.symm.trans he
  rw [h key', if_neg hkey, he]

/-- A file that is put where nothing was is all that is new. -/
theorem Puts.find_or {fs fs' : Files} {key : FileKey} {number : Nat} {c : Content}
    (h : fs.Puts fs' key number c) {l : Location} (hk : fs'.key l = .ok key) {l' : Location} {n : Nat}
    {d : Content} (hfind : fs'.find l' = .ok (.file n d)) : n < fs.next ∨ fs'.key l' = fs'.key l := by
  obtain ⟨key', hk', he'⟩ := find_eq_ok_iff.1 hfind
  rw [h key'] at he'
  by_cases hkey : key' = key
  · right
    rw [hk', hk, hkey]
  · rw [if_neg hkey] at he'
    exact .inl (fs.numbered.below _ (mem_of_lookup (lookup_of_entryAt? he')) n rfl)

/-! ## Writing -/

/-- A file that is there may be written, and keeps its number. -/
theorem write_of_find {fs : Files} {l : Location} {number : Nat} {c : Content}
    (h : fs.find l = .ok (.file number c)) (c' : Content) :
    ∃ key fs', fs.write l c' = .ok fs' ∧ fs.key l = .ok key ∧ fs.entryAt? key = some (.file number c) ∧
      fs.Puts fs' key number c' := by
  obtain ⟨key, hk, he⟩ := find_eq_ok_iff.1 h
  refine ⟨key, fs.setContent key c', ?_, hk, he, entryAt?_setContent_of_file he c'⟩
  rw [write, hk]
  simp only [he]

/-- Writing a file that is there changes what it holds, and nothing else. -/
theorem find_write_of_find {fs : Files} {l : Location} {number : Nat} {c : Content}
    (h : fs.find l = .ok (.file number c)) (c' : Content) :
    ∃ fs', fs.write l c' = .ok fs' ∧ fs'.find l = .ok (.file number c') ∧
      ∀ l', (∀ n d, fs.find l' = .ok (.file n d) → n ≠ number) → fs'.find l' = fs.find l' := by
  obtain ⟨key, fs', hwrite, hk, he, hputs⟩ := write_of_find h c'
  exact ⟨fs', hwrite, hputs.find ((hputs.key_of_file he l).trans hk), fun l' => hputs.find_of_file he⟩

/-- A new file gets the next number, and is all that is new. -/
theorem write_of_missing {fs : Files} {l : Location} {key : FileKey} (hk : fs.key l = .ok key)
    (h : fs.entryAt? key = none) (c : Content) :
    ∃ fs', fs.write l c = .ok fs' ∧ fs.Grows fs' ∧ fs'.find l = .ok (.file fs.next c) := by
  have hputs : fs.Puts (fs.setContent key c) key fs.next c := entryAt?_setContent_of_none h c
  have hgrows := hputs.grows h
  refine ⟨fs.setContent key c, ?_, hgrows, hputs.find (hgrows.key hk)⟩
  rw [write, hk]
  simp only [h]

/-- There is no entry where nothing is found. -/
theorem entryAt?_of_not_has {fs : Files} {l : Location} {key : FileKey} (hk : fs.key l = .ok key)
    (h : fs.has l = false) : fs.entryAt? key = none := by
  cases he : fs.entryAt? key with
  | none => rfl
  | some e =>
    rw [has, find_eq_ok_iff.2 ⟨key, hk, he⟩] at h
    cases h

/-- A file that could be written and was not there is missing. -/
theorem missing_of_write {fs fs' : Files} {l : Location} {c : Content} (hw : fs.write l c = .ok fs')
    (h : fs.has l = false) : ∃ key, fs.key l = .ok key ∧ fs.entryAt? key = none := by
  rw [write] at hw
  split at hw
  · cases hw
  · rename_i key hk
    exact ⟨key, hk, entryAt?_of_not_has hk h⟩

/-! ## Drafts -/

theorem repr_inj {i j : Nat} (h : i.repr = j.repr) : i = j := by
  have hdigits := congrArg String.toList h
  rw [Nat.repr_eq_ofList_toDigits, Nat.repr_eq_ofList_toDigits, String.toList_ofList,
    String.toList_ofList] at hdigits
  rw [← Nat.ofDigitChars_toDigits (b := 10) (n := i) (by decide) (by decide), hdigits,
    Nat.ofDigitChars_toDigits (by decide) (by decide)]

theorem nodup_draftKeys (fs : Files) (key : FileKey) : (fs.draftKeys key).Nodup := by
  refine List.nodup_range.map_on fun i _ j _ h => ?_
  have hname := List.singleton_inj.1 (List.append_cancel_left h)
  exact repr_inj ((String.append_right_inj _).1 hname)

/-- There are more keys for drafts than entries, so one of them is free. -/
theorem lookup_draftKey (fs : Files) (key : FileKey) :
    fs.draftKey key ∈ fs.draftKeys key ∧ fs.entries.lookup (fs.draftKey key) = none := by
  rw [draftKey]
  cases hfind : (fs.draftKeys key).find? fun k => (fs.entries.lookup k).isNone with
  | some k =>
    exact ⟨List.mem_of_find?_eq_some hfind, by simpa using List.find?_some hfind⟩
  | none =>
    have hsub : fs.draftKeys key ⊆ fs.entries.map Prod.fst := by
      intro k hk
      have htaken := List.find?_eq_none.1 hfind k hk
      rw [Option.isNone_iff_eq_none] at htaken
      obtain ⟨e, he⟩ := Option.ne_none_iff_exists'.1 htaken
      exact List.mem_map_of_mem (mem_of_lookup he)
    have hle := ((nodup_draftKeys fs key).subperm hsub).length_le
    rw [draftKeys, List.length_map, List.length_map, List.length_range] at hle
    omega

/-- The last name of the key of a draft is longer than that of its file. -/
theorem getLast?_draftKey (fs : Files) (key : FileKey) :
    ∃ name, (fs.draftKey key).getLast? = some name ∧ (key.getLast?.getD "").length + 2 < name.length := by
  obtain ⟨i, -, hi⟩ := List.mem_map.1 (lookup_draftKey fs key).1
  refine ⟨_, hi ▸ List.getLast?_concat, ?_⟩
  have hdigits : 0 < i.repr.length := Nat.length_repr_pos
  have hdot : ".".length = 1 := rfl
  simp only [String.length_append, hdot]
  omega

theorem draftKey_ne (fs : Files) (key : FileKey) : fs.draftKey key ≠ key := by
  obtain ⟨name, hlast, hlong⟩ := getLast?_draftKey fs key
  intro h
  rw [h] at hlast
  rw [hlast, Option.getD_some] at hlong
  omega

/-- A draft is made where nothing was. -/
theorem entryAt?_draftKey (fs : Files) (key : FileKey) : fs.entryAt? (fs.draftKey key) = none := by
  obtain ⟨name, hlast, hlong⟩ := getLast?_draftKey fs key
  have hgiven : isGiven (fs.draftKey key) = false := by
    rw [isGiven, List.all_eq_false]
    refine ⟨name, List.mem_of_getLast? hlast, ?_⟩
    have hshort : ∀ given ∈ ["..", "/", "//"], name ≠ given := by
      intro given hgiven heq
      have : ∀ given ∈ ["..", "/", "//"], given.length ≤ 2 := by decide
      have := this given hgiven
      rw [heq] at hlong
      omega
    simp only [List.forall_mem_cons, List.not_mem_nil, false_implies, implies_true, and_true] at hshort
    simp [hshort]
  rw [entryAt?, hgiven]
  exact (lookup_draftKey fs key).2

theorem filter_map_set (key : FileKey) (e : Entry) (entries : List (FileKey × Entry)) :
    ((entries.map fun x => if x.1 = key then (key, e) else x).filter fun x => x.1 ≠ key) =
      entries.filter fun x => x.1 ≠ key := by
  induction entries with
  | nil => rfl
  | cons x rest ih =>
    by_cases hx : x.1 = key
    · rw [List.map_cons, if_pos hx, List.filter_cons_of_neg (by simp), ih,
        List.filter_cons_of_neg (by simp [hx])]
    · rw [List.map_cons, if_neg hx, List.filter_cons_of_pos (by simp [hx]), ih,
        List.filter_cons_of_pos (by simp [hx])]

theorem filter_putEntry (key : FileKey) (e : Entry) (entries : List (FileKey × Entry)) :
    ((putEntry key e entries).filter fun x => x.1 ≠ key) = entries.filter fun x => x.1 ≠ key := by
  rw [putEntry]
  split
  · exact filter_map_set key e entries
  · simp

theorem filter_eq_self_of_lookup {key : FileKey} {entries : List (FileKey × Entry)}
    (h : entries.lookup key = none) : (entries.filter fun x => x.1 ≠ key) = entries := by
  refine List.filter_eq_self.2 fun x hx => decide_eq_true ?_
  rintro rfl
  exact absurd (List.lookup_eq_none_iff.1 h x hx) (by simp)

/-- A file that is given a content is the one entry that is not as before. -/
theorem filter_setContent (fs : Files) (key : FileKey) (c : Content) :
    ((fs.setContent key c).entries.filter fun x => x.1 ≠ key) = fs.entries.filter fun x => x.1 ≠ key := by
  rw [setContent]
  split <;> exact filter_putEntry key _ fs.entries

theorem removed_setContent (fs : Files) (key : FileKey) (c : Content) :
    (fs.setContent key c).removed = fs.removed := by
  rw [setContent]
  split <;> rfl

/-- The files with a draft of the file with a key, first empty and then with a content. -/
def withDraft (fs : Files) (key : FileKey) (c : Content) : Files :=
  (fs.setContent (fs.draftKey key) (.text "")).setContent (fs.draftKey key) c

section Draft

variable (fs : Files) (key : FileKey) (c : Content)

theorem entryAt?_withDraft (key' : FileKey) :
    (fs.withDraft key c).entryAt? key' =
      if key' = fs.draftKey key then some (.file fs.next c) else fs.entryAt? key' := by
  have hempty := entryAt?_setContent_of_none (entryAt?_draftKey fs key) (.text "")
  rw [withDraft, entryAt?_setContent_of_file ((hempty _).trans (if_pos rfl)), hempty]
  split <;> rfl

/-- Nothing is left of a draft that is discarded, whether it has been filled or not. -/
theorem entries_discard_of_filter {fs' : Files}
    (h : (fs'.entries.filter fun x => x.1 ≠ fs.draftKey key) =
      fs.entries.filter fun x => x.1 ≠ fs.draftKey key) :
    (fs'.discard (fs.draftKey key)).entries = fs.entries :=
  h.trans (filter_eq_self_of_lookup (lookup_draftKey fs key).2)

theorem filter_withDraft :
    ((fs.withDraft key c).entries.filter fun x => x.1 ≠ fs.draftKey key) =
      fs.entries.filter fun x => x.1 ≠ fs.draftKey key := by
  rw [withDraft, filter_setContent, filter_setContent]

theorem removed_withDraft : (fs.withDraft key c).removed = fs.removed := by
  rw [withDraft, removed_setContent, removed_setContent]

theorem entries_move {source target : FileKey} {e : Entry} (h : fs.entries.lookup source = some e) :
    (fs.move source target).entries = putEntry target e (fs.entries.filter fun x => x.1 ≠ source) := by
  rw [move]
  split
  · rename_i hnone
    cases hnone.symm.trans h
  · rename_i e' he
    cases he.symm.trans h
    rfl

variable {fs key} {l : Location}

theorem key_withDraft (hk : fs.key l = .ok key) : (fs.withDraft key c).key l = .ok key := by
  refine key_of_folders (fun key' h => ?_) hk
  have hne : key' ≠ fs.draftKey key := by
    rintro rfl
    cases (entryAt?_draftKey fs key).symm.trans h
  rw [entryAt?_withDraft, if_neg hne, h]

/-- A draft takes the place of a file, whether that is there or not. -/
theorem replace_withDraft (hk : fs.key l = .ok key) (he : fs.entryAt? key ≠ some .folder) :
    (fs.withDraft key c).replace (fs.draftKey key) l =
      .ok ((fs.withDraft key c).move (fs.draftKey key) key) := by
  rw [replace, key_withDraft c hk]
  dsimp only
  rw [entryAt?_withDraft, if_neg (draftKey_ne fs key).symm]
  split
  · rename_i hfolder
    exact absurd hfolder he
  · rfl

/-- A draft does not take the place of a folder. -/
theorem replace_withDraft_folder (hk : fs.key l = .ok key) (he : fs.entryAt? key = some .folder) :
    (fs.withDraft key c).replace (fs.draftKey key) l = .error ⟨.isADirectory, l.text⟩ := by
  rw [replace, key_withDraft c hk]
  dsimp only
  rw [entryAt?_withDraft, if_neg (draftKey_ne fs key).symm, he]
  rfl

/-- Of a draft that has taken the place of a file nothing else is left. -/
theorem entries_move_draft (fs : Files) (key : FileKey) (c : Content) :
    ((fs.withDraft key c).move (fs.draftKey key) key).entries = putEntry key (.file fs.next c) fs.entries := by
  have hdraft : (fs.withDraft key c).entries.lookup (fs.draftKey key) = some (.file fs.next c) :=
    lookup_of_entryAt? ((entryAt?_withDraft fs key c _).trans (if_pos rfl))
  rw [entries_move _ hdraft, filter_withDraft, filter_eq_self_of_lookup (lookup_draftKey fs key).2]

end Draft

/-! ## Folders -/

theorem entryAt?_setFolder (fs : Files) {key : FileKey} (h : fs.entryAt? key = none) (key' : FileKey) :
    (fs.setFolder key).entryAt? key' = if key' = key then some .folder else fs.entryAt? key' := by
  have hg : isGiven key = false := isGiven_eq_false fun hf => nomatch h.symm.trans hf
  exact entryAt?_of_entries hg rfl key'

theorem grows_setFolder (fs : Files) {key : FileKey} (h : fs.entryAt? key = none) :
    fs.Grows (fs.setFolder key) := by
  intro key' e he
  have hkey : key' ≠ key := by
    rintro rfl
    exact nomatch h.symm.trans he
  rw [entryAt?_setFolder fs h, if_neg hkey, he]

theorem makeAlong_grows {fs fs' : Files} {missing : Bool} {key : FileKey} {parts : List String}
    (h : fs.makeAlong missing key parts = .ok fs') : fs.Grows fs' ∧ fs'.next = fs.next := by
  induction parts generalizing fs missing key with
  | nil =>
    cases h
    exact ⟨.refl _, rfl⟩
  | cons part rest ih =>
    rw [makeAlong] at h
    split at h
    · exact nomatch h
    · dsimp only at h
      split at h
      · exact ih h
      · exact nomatch h
      · rename_i hnone
        obtain ⟨hgrows, hnext⟩ := ih h
        exact ⟨(grows_setFolder fs hnone).trans hgrows, hnext⟩

/-- Making a folder adds folders and no file. -/
theorem makeFolder_grows {fs fs' : Files} {l : Location} (h : fs.makeFolder l = .ok fs') :
    fs.Grows fs' ∧ fs'.next = fs.next := by
  rw [makeFolder] at h
  split at h
  · exact nomatch h
  · split at h
    · rename_i hmade
      cases h
      exact makeAlong_grows hmade
    · exact nomatch h

/-- A plain last part of a name is the last part of what the name leads to. -/
theorem getLast?_of_follow {fs : Files} {name : String} (hname : name ≠ "..") {start key : FileKey}
    {parts : List String} (h : fs.follow start (parts ++ [name]) = .ok key) : key.getLast? = some name := by
  induction parts generalizing start with
  | nil =>
    rw [List.nil_append, follow] at h
    split at h
    · exact nomatch h
    · exact nomatch h
    · split at h
      · exact nomatch h
      · rw [follow] at h
        cases h
        exact List.getLast?_concat
  | cons part rest ih =>
    rw [List.cons_append, follow] at h
    split at h
    · exact nomatch h
    · exact nomatch h
    · split at h
      · exact nomatch h
      · exact ih h

theorem getLast?_of_key_child {fs : Files} {l : Location} {name : String} (hname : name ≠ "..")
    {key : FileKey} (h : fs.key (l.child name) = .ok key) : key.getLast? = some name := by
  rw [Files.key] at h
  split at h
  · exact nomatch h
  · exact getLast?_of_follow hname h

end RuleLabels.Files
