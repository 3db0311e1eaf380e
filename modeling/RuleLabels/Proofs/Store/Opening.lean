import Mathlib.Tactic.Common
import RuleLabels.Proofs.Store.Holding
import RuleLabels.Proofs.Store.Transaction

/-!
# What new stores hold

A store is new if every file in which it keeps something was made when it was opened.  A new store stores the
default rules if it was to be seeded, and else nothing, wherever it was opened.

* `Stock.isSound_initial`: the stock that a new store begins with is sound;
* `DatabaseStore.run_openFile_eq_ok`, `.run_openTables_eq_ok` and `.run_openAt_eq_ok`: all that opening a
  database can do;
* `Store.stores_of_openAt`: a new store stores that stock, and nothing that was found before is found to be
  anything else.
-/

namespace RuleLabels

open Text Value

/-! ## Default rules -/

/-- The default rules of one time are those of another, but for their times. -/
theorem Rule.mem_defaults {now : Timestamp} {r : Rule} (h : r ∈ Rule.defaults now) (other : Timestamp) :
    { r with createdAt := other, updatedAt := other } ∈ Rule.defaults other := by
  simp only [Rule.defaults, List.mem_cons, List.not_mem_nil, or_false] at h ⊢
  rcases h with rfl | rfl | rfl
  · exact .inl rfl
  · exact .inr (.inl rfl)
  · exact .inr (.inr rfl)

theorem Rule.isValid_of_mem_defaults {now : Timestamp} {r : Rule} (h : r ∈ Rule.defaults now) :
    r.IsValid := by
  have hall : ∀ s ∈ Rule.defaults .epoch, allBlank s.id = false ∧ allBlank s.name = false ∧
      allBlank s.label = false ∧ s.conditions.isWellFormed = true ∧ s.conditions.isGroup = true := by
    decide
  obtain ⟨hid, hname, hlabel, hwell, hgroup⟩ := hall _ (Rule.mem_defaults h .epoch)
  exact ⟨hid, hname, hlabel, hwell, hgroup⟩

theorem Rule.isPlain_of_mem_defaults {now : Timestamp} {r : Rule} (h : r ∈ Rule.defaults now) :
    r.IsPlain := by
  have hall : ∀ s ∈ Rule.defaults .epoch, isWhole s.id = true ∧ isWhole s.name = true ∧
      isWhole s.label = true ∧ s.conditions.written.isJson = true ∧ -2 ^ 63 ≤ s.priority ∧
        s.priority < 2 ^ 63 := by
    decide
  obtain ⟨hid, hname, hlabel, hconditions, hpriority⟩ := hall _ (Rule.mem_defaults h .epoch)
  refine ⟨hid, hname, hlabel, ?_, hpriority⟩
  rw [Tree.toValue_eq_written]
  exact hconditions

namespace Stock

/-- A stock without rules and records. -/
def empty : Stock := ⟨[], []⟩

/-- The stock of a new store. -/
def initial (seed : Bool) (now : Timestamp) : Stock := ⟨if seed then Rule.defaults now else [], []⟩

/-- A new store holds a sound stock. -/
theorem isSound_initial (seed : Bool) (now : Timestamp) : (initial seed now).IsSound := by
  cases seed with
  | false =>
    exact ⟨⟨fun _ h => (nomatch h), .nil⟩, fun _ h => (nomatch h), fun _ h => (nomatch h), .nil⟩
  | true =>
    refine ⟨⟨fun _ => Rule.isValid_of_mem_defaults, ?_⟩, fun _ => Rule.isPlain_of_mem_defaults,
      fun _ h => (nomatch h), .nil⟩
    show ["rule-1", "rule-2", "rule-3"].Nodup
    decide

end Stock

/-! ## New stores -/

/-- A file has a number from a bound on. -/
def Files.isNewAt (since : Nat) (fs : Files) (l : Location) : Bool := (fs.numberAt? l).any (since ≤ ·)

/-- Every file of a store has a number from a bound on. -/
def Store.isNew (since : Nat) (fs : Files) : Store → Bool
  | .memory _ _ => true
  | .folder s => fs.isNewAt since s.rulesFile && fs.isNewAt since s.recordsFile
  | .database s =>
    match s.place with
    | .file _ number _ => since ≤ number
    | _ => true

theorem Files.isNewAt_iff {since : Nat} {fs : Files} {l : Location} :
    fs.isNewAt since l = true ↔ ∃ n c, fs.find l = .ok (.file n c) ∧ since ≤ n := by
  rw [isNewAt, numberAt?]
  split
  · rename_i number c hfind
    simp only [Option.any_some, decide_eq_true_eq]
    constructor
    · intro h
      exact ⟨number, c, hfind, h⟩
    · rintro ⟨n, d, hfind', h⟩
      cases hfind.symm.trans hfind'
      exact h
  · rename_i hno
    constructor
    · intro h
      cases h
    · rintro ⟨n, d, hfind, -⟩
      exact absurd hfind (hno n d)

/-- What opening a store leaves: the time, the identifiers, and whatever was found. -/
structure World.Opens (w w' : World) : Prop where
  now : w'.now = w.now
  ids : w'.ids = w.ids
  find : ∀ l e, w.files.find l = .ok e → w'.files.find l = .ok e

theorem World.Opens.of_grows {w : World} {fs : Files} (h : w.files.Grows fs) :
    w.Opens { w with files := fs } := ⟨rfl, rfl, fun _ _ => h.find⟩

theorem World.Opens.trans {w w' w'' : World} (h : w.Opens w') (h' : w'.Opens w'') : w.Opens w'' :=
  ⟨h'.now.trans h.now, h'.ids.trans h.ids, fun l e he => h'.find l e (h.find l e he)⟩

/-- What a new store writes to its own files hides nothing that was found. -/
theorem World.Opens.of_keeps {w w' w'' : World} (h : w.Opens w') (hk : w'.Keeps w.files.next w'') :
    w.Opens w'' := by
  refine ⟨hk.now.trans h.now, hk.ids.trans h.ids, fun l e he => ?_⟩
  rw [hk.find l, h.find l e he]
  intro n c hn
  cases (h.find l e he).symm.trans hn
  exact Files.lt_next_of_find he

theorem World.Opens.log {w w' : World} (h : w.Opens w') (log : Log) : w.Opens { w' with log } :=
  ⟨h.now, h.ids, h.find⟩

/-! ## Folders -/

namespace FolderStore

variable {s : FolderStore} {l : Location} {w w' : World}

/-- A file that is there is not made again. -/
theorem run_unlessThere_eq_ok {make : Action Unit}
    (h : ExceptT.run (unlessThere l make) w = (.ok (), w')) :
    (w.files.has l = true ∧ w' = w) ∨ (w.files.has l = false ∧ ExceptT.run make w = (.ok (), w')) := by
  rw [unlessThere, Action.run_bind_ok (Action.run_get w)] at h
  cases hhas : w.files.has l with
  | true =>
    rw [hhas] at h
    cases h
    exact .inl ⟨rfl, rfl⟩
  | false =>
    rw [hhas] at h
    exact .inr ⟨rfl, h⟩

/-- A document that was missing and is written is a new file. -/
theorem run_writeDocument_of_missing {v : Value} (h : ExceptT.run (s.writeDocument l v) w = (.ok (), w'))
    (hhas : w.files.has l = false) :
    w.Opens w' ∧ w'.files.find l = .ok (.file w.files.next (.document v)) ∧
      ∀ l' n d, w'.files.find l' = .ok (.file n d) →
        n < w.files.next ∨ w'.files.key l' = w'.files.key l := by
  obtain ⟨key, fs, rfl, hk, -, hputs⟩ := run_writeDocument_eq_ok h
  have hgrows := hputs.grows (Files.entryAt?_of_not_has hk hhas)
  have hk' := hgrows.key hk
  exact ⟨.of_grows hgrows, hputs.find hk', fun _ _ _ hfind => hputs.find_or hk' hfind⟩

/-- Rules that were missing and are made are a new file. -/
theorem run_makeRules_eq_ok {seed : Bool} (h : ExceptT.run (s.makeRules seed) w = (.ok (), w'))
    (hhas : w.files.has s.rulesFile = false) :
    w.Opens w' ∧
      w'.files.find s.rulesFile =
        .ok (.file w.files.next (.document (rulesDocument (Stock.initial seed w.now).rules))) ∧
      ∀ l' n d, w'.files.find l' = .ok (.file n d) →
        n < w.files.next ∨ w'.files.key l' = w'.files.key s.rulesFile := by
  rw [makeRules, Action.run_bind_ok (Action.run_now w)] at h
  obtain ⟨_, v, hwrite, hlog⟩ := Action.run_bind_eq_ok h
  rw [Action.run_log] at hlog
  cases hlog
  obtain ⟨hopens, hself, hothers⟩ := run_writeDocument_of_missing hwrite hhas
  exact ⟨hopens.log _, hself, hothers⟩

/-- The two files of a folder are different ones. -/
theorem key_rulesFile_ne {fs : Files} {n m : Nat} {c d : Content}
    (hrules : fs.find s.rulesFile = .ok (.file n c)) (hrecords : fs.find s.recordsFile = .ok (.file m d)) :
    fs.key s.recordsFile ≠ fs.key s.rulesFile := by
  obtain ⟨key, hk, -⟩ := Files.find_eq_ok_iff.1 hrules
  obtain ⟨key', hk', -⟩ := Files.find_eq_ok_iff.1 hrecords
  intro heq
  rw [hk, hk'] at heq
  cases heq
  have hlast := Files.getLast?_of_key_child (by decide) hk
  have hlast' := Files.getLast?_of_key_child (by decide) hk'
  rw [hlast] at hlast'
  exact absurd hlast' (by decide)

/-- A file with a new number was not there before. -/
theorem not_has_of_isNewAt {since : Nat} (hsince : w.files.next ≤ since) (hopens : w.Opens w')
    (hnew : w'.files.isNewAt since l = true) : w.files.has l = false := by
  rw [Files.has]
  cases hfind : w.files.find l with
  | error f => rfl
  | ok e =>
    obtain ⟨n, c, hfind', hle⟩ := Files.isNewAt_iff.1 hnew
    cases (hopens.find l e hfind).symm.trans hfind'
    have := Files.lt_next_of_find hfind
    omega

/-- A folder that is made ready with new files is made in a world where there is no file of its rules. -/
theorem run_prepare_eq_ok {seed : Bool} (h : ExceptT.run (s.prepare seed) w = (.ok (), w'))
    (hnew : w'.files.isNewAt w.files.next s.rulesFile = true) :
    ∃ w₁ w₂, w.Opens w₁ ∧ w₁.files.next = w.files.next ∧ w₁.files.has s.rulesFile = false ∧
      ExceptT.run (s.makeRules seed) w₁ = (.ok (), w₂) ∧ w₂.Opens w' ∧
      ExceptT.run (unlessThere s.recordsFile (s.writeDocument s.recordsFile (.array []))) w₂ = (.ok (), w') := by
  obtain ⟨_, w₁, hfolder, h⟩ := Action.run_bind_eq_ok h
  obtain ⟨_, w₂, hrules, hrecords⟩ := Action.run_bind_eq_ok h
  obtain ⟨fs, hmade, rfl⟩ := Action.run_tryFiles_eq_ok hfolder
  obtain ⟨hgrows, hnext⟩ := Files.makeFolder_grows hmade
  have hrest : w₂.Opens w' := by
    rcases run_unlessThere_eq_ok hrecords with ⟨-, rfl⟩ | ⟨hhas, hwrite⟩
    · exact .of_grows (.refl _)
    · exact (run_writeDocument_of_missing hwrite hhas).1
  rcases run_unlessThere_eq_ok hrules with ⟨hhas, rfl⟩ | ⟨hhas, hmake⟩
  · rw [not_has_of_isNewAt (Nat.le_of_eq hnext) hrest hnew] at hhas
    cases hhas
  · exact ⟨_, w₂, .of_grows hgrows, hnext, hhas, hmake, hrest, hrecords⟩

/-- A folder that is made ready stores what a new store begins with. -/
theorem stores_of_prepare {seed : Bool} (h : ExceptT.run (s.prepare seed) w = (.ok (), w'))
    (hnew : (Store.folder s).isNew w.files.next w'.files = true) :
    s.Stores w.files.next w'.files (Stock.initial seed w.now) ∧ w.Opens w' := by
  rw [Store.isNew, Bool.and_eq_true] at hnew
  obtain ⟨hrulesNew, hrecordsNew⟩ := hnew
  obtain ⟨w₁, w₂, hopens, hnext, hhas, hmake, hrest, hrecords⟩ := run_prepare_eq_ok h hrulesNew
  obtain ⟨hopens₂, hfind, hothers⟩ := run_makeRules_eq_ok hmake hhas
  rw [hopens.now] at hfind
  have hfind' : w'.files.find s.rulesFile = _ := hrest.find _ _ hfind
  refine ⟨?_, (hopens.trans hopens₂).trans hrest⟩
  rcases run_unlessThere_eq_ok hrecords with ⟨hhas', rfl⟩ | ⟨hhas', hwrite⟩
  · -- The file of the records cannot be there: it would be older, or the file of the rules.
    obtain ⟨m, c, hrecordsFile, hle⟩ := Files.isNewAt_iff.1 hrecordsNew
    rcases hothers _ _ _ hrecordsFile with hlt | hkey
    · rw [hnext] at hlt
      omega
    · exact absurd hkey (key_rulesFile_ne hfind hrecordsFile)
  · obtain ⟨-, hself, -⟩ := run_writeDocument_of_missing hwrite hhas'
    have hlt : w₁.files.next < w₂.files.next := Files.lt_next_of_find hfind
    exact ⟨w₁.files.next, w₂.files.next, by omega, by omega, by omega, hfind', hself⟩

end FolderStore

/-! ## Databases -/

namespace DatabaseStore

variable {s : DatabaseStore} {url : String} {maxDepth : Option Nat} {w w' : World}

theorem run_makeFolder_eq_ok (h : ExceptT.run (makeFolder url) w = (.ok (), w')) :
    w.Opens w' ∧ w'.files.next = w.files.next := by
  rw [makeFolder] at h
  split at h
  · obtain ⟨fs, hmade, rfl⟩ := Action.run_tryFiles_eq_ok h
    obtain ⟨hgrows, hnext⟩ := Files.makeFolder_grows hmade
    exact ⟨.of_grows hgrows, hnext⟩
  · cases h
    exact ⟨.of_grows (.refl _), rfl⟩

/-- A database file has a name that is not too long, and is there already, or it is made and empty. -/
theorem run_fileContent_eq_ok {l : Location} {creates : Bool} {c : Content}
    (h : ExceptT.run (fileContent url l creates) w = (.ok c, w')) :
    Files.nameBytes l.text ≤ maxNameBytes ∧
      ((w' = w ∧ ∃ n, w.files.find l = .ok (.file n c)) ∨
        (w.Opens w' ∧ w.files.Grows w'.files ∧ c = .text "" ∧
          w'.files.find l = .ok (.file w.files.next c))) := by
  rw [fileContent] at h
  dsimp only at h
  split at h
  · cases h
  rename_i hlong
  refine ⟨Nat.not_lt.1 hlong, ?_⟩
  rw [Action.run_bind_ok (Action.run_get w)] at h
  split at h
  · rename_i hcontent
    cases h
    exact .inl ⟨rfl, Files.find_of_content hcontent⟩
  · rename_i path made hcontent hwrite
    split at h
    · cases h
      have hhas : w.files.has l = false := by
        rw [Files.has]
        cases hfind : w.files.find l with
        | error f => rfl
        | ok e =>
          cases e with
          | file n d => cases hcontent.symm.trans (Files.content_of_find hfind)
          | folder =>
            rw [Files.content, hfind] at hcontent
            cases hcontent
      obtain ⟨key, hk, hnone⟩ := Files.missing_of_write hwrite hhas
      obtain ⟨fs, hwrite', hgrows, hself⟩ := Files.write_of_missing hk hnone (.text "")
      cases hwrite.symm.trans hwrite'
      exact .inr ⟨.of_grows hgrows, hgrows, rfl, hself⟩
    · cases h
  · cases h

/-! ### Where a database is -/

/-- The file of a database, with its number and with whether it may be written. -/
def file? (s : DatabaseStore) : Option (Location × Nat × Bool) :=
  match s.place with
  | .file l number writes => some (l, number, writes)
  | _ => none

/-- A database stays where it is, with the address and the limit that it was opened with. -/
structure StaysAt (s s' : DatabaseStore) : Prop where
  url : s'.url = s.url
  maxDepth : s'.maxDepth = s.maxDepth
  file : s'.file? = s.file?

variable {s' : DatabaseStore}

theorem isNew_eq (s : DatabaseStore) (since : Nat) (fs : Files) :
    (Store.database s).isNew since fs = s.file?.all fun f => decide (since ≤ f.2.1) := by
  obtain ⟨url, place, maxDepth⟩ := s
  cases place with
  | file l number writes => rfl
  | _ => rfl

/-- A database that takes other tables stays where it is. -/
theorem staysAt_of_setTables {t : Tables} (h : ExceptT.run (s.setTables t) w = (.ok s', w')) : s.StaysAt s' := by
  rcases run_setTables_eq_ok h with ⟨_, _, hplace, rfl, -⟩ | ⟨-, rfl, -⟩ | ⟨_, _, _, _, -, rfl, -, -⟩
  · refine ⟨rfl, rfl, ?_⟩
    rw [file?, file?, hplace]
  · exact ⟨rfl, rfl, rfl⟩
  · exact ⟨rfl, rfl, rfl⟩

theorem staysAt_of_saveRules {rules : List Rule} (h : ExceptT.run (s.saveRules rules) w = (.ok s', w')) :
    s.StaysAt s' := by
  obtain ⟨_, _, _, -, -, hset, -⟩ := run_saveRules_eq_ok h
  exact staysAt_of_setTables hset

/-! ### What opening does -/

/-- A database in a file has its tables, or is given empty ones. -/
theorem run_openFile_eq_ok {l : Location} {access : DatabaseUrl.Access}
    (h : ExceptT.run (openFile url maxDepth l access) w = (.ok s, w')) :
    ∃ n c w₁, Files.nameBytes l.text ≤ maxNameBytes ∧ w.files.Grows w₁.files ∧ w.Opens w₁ ∧
      w₁.files.find l = .ok (.file n c) ∧
      ((∃ t, c = .tables t ∧ w₁ = w ∧ s = ⟨url, .file l n access.writes, maxDepth⟩ ∧ w' = w₁) ∨
        access.writes = true ∧
          ExceptT.run (setTables ⟨url, .file l n access.writes, maxDepth⟩ .empty) w₁ = (.ok s, w')) := by
  rw [openFile] at h
  obtain ⟨c, w₁, hcontent, hrest⟩ := Action.run_bind_eq_ok h
  rw [Action.run_bind_ok (Action.run_get w₁)] at hrest
  obtain ⟨hshort, hfound⟩ := run_fileContent_eq_ok hcontent
  obtain ⟨n, hgrows, hopens, hfind, hold⟩ : ∃ n, w.files.Grows w₁.files ∧ w.Opens w₁ ∧
      w₁.files.find l = .ok (.file n c) ∧ ∀ t, c = .tables t → w₁ = w := by
    rcases hfound with ⟨rfl, n, hfind⟩ | ⟨hopens, hgrows, rfl, hfind⟩
    · exact ⟨n, .refl _, .of_grows (.refl _), hfind, fun _ _ => rfl⟩
    · exact ⟨_, hgrows, hopens, hfind, fun _ ht => nomatch ht⟩
  refine ⟨n, c, w₁, hshort, hgrows, hopens, hfind, ?_⟩
  rw [Files.numberAt?_of_find hfind, Option.getD_some] at hrest
  dsimp only at hrest
  split at hrest
  · rename_i t
    cases hrest
    exact .inl ⟨t, rfl, hold t rfl, rfl, rfl⟩
  · split at hrest
    · split at hrest
      · rename_i hwrites
        exact .inr ⟨hwrites, hrest⟩
      · cases hrest
    · cases hrest

/-- A database is connected to in memory, where it is empty, or in a file. -/
theorem run_openTables_eq_ok (h : ExceptT.run (openTables url maxDepth) w = (.ok s, w')) :
    ∃ w₁, ExceptT.run (makeFolder url) w = (.ok (), w₁) ∧
      ((∃ separate, s = ⟨url, .memory separate .empty, maxDepth⟩ ∧ w' = w₁) ∨
        ∃ engine l access, DatabaseUrl.engineOfText url = .ok engine ∧
          engine.destination = .ok (.file l access) ∧
            ExceptT.run (openFile url maxDepth l access) w₁ = (.ok s, w')) := by
  obtain ⟨_, w₁, hfolder, hconnect⟩ := Action.run_bind_eq_ok h
  refine ⟨w₁, hfolder, ?_⟩
  rw [connect] at hconnect
  split at hconnect
  · cases hconnect
  · rename_i engine hengine
    split at hconnect
    · cases hconnect
    · rename_i separate _
      cases hconnect
      exact .inl ⟨separate, rfl, rfl⟩
    · rename_i l access hdestination
      exact .inr ⟨engine, l, access, hengine, hdestination, hconnect⟩

/-- A database is given the default rules, or is taken as it is. -/
theorem run_openAt_eq_ok {seed : Bool} (h : ExceptT.run (openAt url maxDepth seed) w = (.ok s, w')) :
    ∃ s₁ w₁ t, ExceptT.run (openTables url maxDepth) w = (.ok s₁, w₁) ∧
      ExceptT.run s₁.tables w₁ = (.ok t, w₁) ∧
      ((seed = true ∧ ∃ w₂ log, ExceptT.run (s₁.saveRules (Rule.defaults w₁.now)) w₁ = (.ok s, w₂) ∧
          w' = { w₂ with log }) ∨
        (seed = true → t.rules ≠ []) ∧ s = s₁ ∧ w' = w₁) := by
  obtain ⟨s₁, w₁, hopen, h₁⟩ := Action.run_bind_eq_ok h
  obtain ⟨t, w₂, htables, h₂⟩ := Action.run_bind_eq_ok h₁
  obtain rfl := (reads_tables s₁).world_eq htables
  refine ⟨s₁, w₁, t, hopen, htables, ?_⟩
  split at h₂
  · rename_i hseed
    rw [Bool.and_eq_true] at hseed
    obtain ⟨_, _, hnow, h₃⟩ := Action.run_bind_eq_ok h₂
    cases hnow
    obtain ⟨s₃, w₃, hsave, h₄⟩ := Action.run_bind_eq_ok h₃
    cases h₄
    exact .inl ⟨hseed.1, w₃, _, hsave, rfl⟩
  · rename_i hseed
    cases h₂
    refine .inr ⟨fun hyes hempty => hseed ?_, rfl, rfl⟩
    rw [hyes, hempty]
    rfl

/-! ### What comes of it -/

/-- A database in a new file has no rows. -/
theorem stores_of_openFile {l : Location} {access : DatabaseUrl.Access}
    (h : ExceptT.run (openFile url maxDepth l access) w = (.ok s, w')) {since : Nat}
    (hsince : w.files.next = since) (hnew : (Store.database s).isNew since w'.files = true) :
    s.Stores since w'.files .empty ∧ w.Opens w' := by
  obtain ⟨n, c, w₁, -, -, hopens, hfind, ⟨t, -, rfl, rfl, rfl⟩ | ⟨hwrites, hset⟩⟩ := run_openFile_eq_ok h
  · -- A file that was there has an old number.
    have hold : n < w'.files.next := Files.lt_next_of_find hfind
    have hle : since ≤ n := by
      rw [isNew_eq, file?, Option.all_some, decide_eq_true_eq] at hnew
      exact hnew
    omega
  · have hle : since ≤ n := by
      rw [isNew_eq, (staysAt_of_setTables hset).file, file?, Option.all_some, decide_eq_true_eq] at hnew
      exact hnew
    obtain ⟨w₂, hwrite, hkeeps, hself, -⟩ := Action.run_write hfind hle (.tables .empty)
    cases hset.symm.trans (Action.run_bind_ok hwrite)
    subst hsince
    exact ⟨⟨hwrites, hle, hself⟩, hopens.of_keeps hkeeps⟩

/-- A new database has no rows. -/
theorem stores_of_openTables (h : ExceptT.run (openTables url maxDepth) w = (.ok s, w'))
    (hnew : (Store.database s).isNew w.files.next w'.files = true) :
    s.Stores w.files.next w'.files .empty ∧ w.Opens w' := by
  obtain ⟨w₁, hfolder, ⟨separate, rfl, rfl⟩ | ⟨engine, l, access, -, -, hopen⟩⟩ := run_openTables_eq_ok h
  · exact ⟨rfl, (run_makeFolder_eq_ok hfolder).1⟩
  · obtain ⟨hopens, hnext⟩ := run_makeFolder_eq_ok hfolder
    obtain ⟨hstores, hopens'⟩ := stores_of_openFile hopen hnext hnew
    exact ⟨hstores, hopens.trans hopens'⟩

/-- A new database stores what a new store begins with. -/
theorem stores_of_openAt {seed : Bool} (h : ExceptT.run (openAt url maxDepth seed) w = (.ok s, w'))
    (hnew : (Store.database s).isNew w.files.next w'.files = true) :
    s.Stores w.files.next w'.files (Stock.initial seed w.now) ∧ w.Opens w' := by
  obtain ⟨s₁, w₁, t, hopen, htables, ⟨rfl, w₂, log, hsave, rfl⟩ | ⟨hfull, rfl, rfl⟩⟩ := run_openAt_eq_ok h
  · have hnew₁ : (Store.database s₁).isNew w.files.next w₁.files = true := by
      rw [isNew_eq, ← (staysAt_of_saveRules hsave).file, ← isNew_eq _ _ w₂.files]
      exact hnew
    obtain ⟨hstores, hopens⟩ := stores_of_openTables hopen hnew₁
    obtain ⟨hstores', hkeeps⟩ := stores_of_saveRules hstores hsave
    rw [← hopens.now]
    exact ⟨hstores', (hopens.of_keeps hkeeps).log log⟩
  · obtain ⟨hstores, hopens⟩ := stores_of_openTables hopen hnew
    cases (run_tables hstores).symm.trans htables
    cases seed with
    | false => exact ⟨hstores, hopens⟩
    | true => exact absurd rfl (hfull rfl)

/-- A database keeps the address and the limit that it is opened with. -/
theorem limits_of_openTables (h : ExceptT.run (openTables url maxDepth) w = (.ok s, w')) :
    s.url = url ∧ s.maxDepth = maxDepth := by
  obtain ⟨w₁, -, ⟨separate, rfl, -⟩ | ⟨engine, l, access, -, -, hopen⟩⟩ := run_openTables_eq_ok h
  · exact ⟨rfl, rfl⟩
  · obtain ⟨n, c, w₂, -, -, -, -, ⟨t, -, -, rfl, -⟩ | ⟨-, hset⟩⟩ := run_openFile_eq_ok hopen
    · exact ⟨rfl, rfl⟩
    · have hstays := staysAt_of_setTables hset
      exact ⟨hstays.url, hstays.maxDepth⟩

theorem limits_of_openAt {seed : Bool} (h : ExceptT.run (openAt url maxDepth seed) w = (.ok s, w')) :
    s.url = url ∧ s.maxDepth = maxDepth := by
  obtain ⟨s₁, w₁, t, hopen, -, ⟨-, w₂, log, hsave, -⟩ | ⟨-, rfl, -⟩⟩ := run_openAt_eq_ok h
  · have hstays := staysAt_of_saveRules hsave
    obtain ⟨hurl, hdepth⟩ := limits_of_openTables hopen
    exact ⟨hstays.url.trans hurl, hstays.maxDepth.trans hdepth⟩
  · exact limits_of_openTables hopen

end DatabaseStore

/-! ## Stores -/

namespace Store

variable {limits : Json.Limits} {place : Place} {seed : Bool} {s : Store} {w w' : World}

/-- A new store stores what a new store begins with, wherever it was opened. -/
theorem stores_of_openAt (h : ExceptT.run (openAt limits seed place) w = (.ok s, w'))
    (hnew : s.isNew w.files.next w'.files = true) :
    s.Stores w.files.next w'.files (Stock.initial seed w.now) ∧ w.Opens w' := by
  cases place with
  | memory =>
    cases h
    exact ⟨⟨rfl, rfl⟩, .of_grows (.refl _)⟩
  | folder l =>
    obtain ⟨_, _, hprepare, hs⟩ := Action.run_bind_eq_ok h
    cases hs
    exact FolderStore.stores_of_prepare hprepare hnew
  | database url =>
    obtain ⟨_, _, hopen, hs⟩ := Action.run_bind_eq_ok h
    cases hs
    exact DatabaseStore.stores_of_openAt hopen hnew

/-- A new store holds what it stores, if documents may have any depth. -/
theorem holds_of_openAt (h : ExceptT.run (openAt .unbounded seed place) w = (.ok s, w'))
    (hnew : s.isNew w.files.next w'.files = true) :
    s.Holds w.files.next w'.files (Stock.initial seed w.now) ∧ w.Opens w' := by
  obtain ⟨hstores, hopens⟩ := stores_of_openAt h hnew
  refine ⟨?_, hopens⟩
  cases place with
  | memory =>
    cases h
    exact hstores
  | folder l =>
    obtain ⟨_, _, -, hs⟩ := Action.run_bind_eq_ok h
    cases hs
    exact ⟨rfl, hstores⟩
  | database url =>
    obtain ⟨_, _, hopen, hs⟩ := Action.run_bind_eq_ok h
    cases hs
    exact ⟨(DatabaseStore.limits_of_openAt hopen).2, hstores⟩

end Store

end RuleLabels
