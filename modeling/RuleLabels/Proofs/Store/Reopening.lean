import Mathlib.Tactic.Common
import RuleLabels.Proofs.Files.Staying
import RuleLabels.Proofs.Store.Opening

/-!
# Opening a store again

Opening a store makes what is missing of it.  After that nothing is missing, and no write removes anything, so
that opening the store again changes nothing and gives the store itself.  The one exception is a database that
is to be seeded and has no rules: it is seeded each time.

* `FolderStore.IsReady` and `DatabaseStore.IsReady`: nothing is missing of a store;
* `Store.IsReady.carry`: whatever a store takes, nothing is missing of it afterwards;
* `Store.run_openAt_of_isReady`: a store is opened again as it is, but for rows of default rules.
-/

namespace RuleLabels

/-! ## Folders -/

namespace FolderStore

/-- The folder and its two files are there. -/
structure IsReady (s : FolderStore) (fs : Files) : Prop where
  made : fs.makeFolder s.place = .ok fs
  rules : fs.has s.rulesFile = true
  records : fs.has s.recordsFile = true

variable {s : FolderStore} {l : Location} {v : Value} {w w' : World}

theorem IsReady.of_stays {fs fs' : Files} (h : s.IsReady fs) (hstays : fs.Stays fs') : s.IsReady fs' where
  made := Files.makeFolder_of_stays h.made hstays
  rules := hstays.has h.rules
  records := hstays.has h.records

theorem run_unlessThere (make : Action Unit) (h : w.files.has l = true) :
    ExceptT.run (unlessThere l make) w = (.ok (), w) := by
  rw [unlessThere, Action.run_bind_ok (Action.run_get w), h]
  rfl

/-- A folder of which nothing is missing is ready as it is. -/
theorem run_prepare (h : s.IsReady w.files) (seed : Bool) : ExceptT.run (s.prepare seed) w = (.ok (), w) := by
  have hfolder : ExceptT.run (Action.tryFiles fun files => files.makeFolder s.place) w = (.ok (), w) := by
    rw [Action.tryFiles, Action.run_bind_ok (Action.run_get w), h.made]
    rfl
  rw [prepare, Action.run_bind_ok hfolder, Action.run_bind_ok (run_unlessThere _ h.rules)]
  exact run_unlessThere _ h.records

/-- A document that is written removes nothing. -/
theorem stays_of_writeDocument (h : ExceptT.run (s.writeDocument l v) w = (.ok (), w')) :
    w.files.Stays w'.files ∧ w'.files.has l = true := by
  obtain ⟨key, fs, rfl, hk, hne, hputs⟩ := run_writeDocument_eq_ok h
  have hstays := Files.Stays.of_puts hputs hne
  refine ⟨hstays, ?_⟩
  rw [Files.has, hputs.find (hstays.key hk)]
  rfl

theorem stays_of_makeRules {seed : Bool} (h : ExceptT.run (s.makeRules seed) w = (.ok (), w')) :
    w.files.Stays w'.files ∧ w'.files.has s.rulesFile = true := by
  rw [makeRules, Action.run_bind_ok (Action.run_now w)] at h
  obtain ⟨_, v, hwrite, hlog⟩ := Action.run_bind_eq_ok h
  rw [Action.run_log] at hlog
  cases hlog
  obtain ⟨hstays, hhas⟩ := stays_of_writeDocument hwrite
  exact ⟨hstays, hhas⟩

/-- What is made where it is missing is there afterwards. -/
theorem stays_of_unlessThere {make : Action Unit}
    (hmake : ∀ v, ExceptT.run make w = (.ok (), v) → w.files.Stays v.files ∧ v.files.has l = true)
    (h : ExceptT.run (unlessThere l make) w = (.ok (), w')) :
    w.files.Stays w'.files ∧ w'.files.has l = true := by
  rcases run_unlessThere_eq_ok h with ⟨hhas, rfl⟩ | ⟨-, hmade⟩
  · exact ⟨.of_entries rfl, hhas⟩
  · exact hmake w' hmade

/-- Nothing is missing of a folder that was made ready. -/
theorem isReady_of_prepare {seed : Bool} (h : ExceptT.run (s.prepare seed) w = (.ok (), w')) :
    s.IsReady w'.files := by
  obtain ⟨_, w₁, hfolder, h₁⟩ := Action.run_bind_eq_ok h
  obtain ⟨_, w₂, hrules, hrecords⟩ := Action.run_bind_eq_ok h₁
  obtain ⟨fs, hmade, rfl⟩ := Action.run_tryFiles_eq_ok hfolder
  obtain ⟨hstays, hhas⟩ := stays_of_unlessThere (fun _ hv => stays_of_makeRules hv) hrules
  obtain ⟨hstays', hhas'⟩ := stays_of_unlessThere (fun _ hv => stays_of_writeDocument hv) hrecords
  exact ⟨Files.makeFolder_of_stays hmade (hstays.trans hstays'), hstays'.has hhas, hhas'⟩

theorem stays_of_saveRules {rules : List Rule} (h : ExceptT.run (s.saveRules rules) w = (.ok (), w')) :
    w.files.Stays w'.files := by
  obtain ⟨_, v, hwrite, hlog⟩ := Action.run_bind_eq_ok h
  rw [Action.run_log] at hlog
  cases hlog
  exact (stays_of_writeDocument hwrite).1

theorem stays_of_append {r : Record} (h : ExceptT.run (s.append r) w = (.ok (), w')) :
    w.files.Stays w'.files := by
  obtain ⟨_, v, hitems, hwrite⟩ := Action.run_bind_eq_ok h
  obtain rfl := s.reads_recordItems.world_eq hitems
  exact (stays_of_writeDocument hwrite).1

end FolderStore

/-! ## Databases -/

namespace DatabaseStore

/-- The database is in a file with a number, where its address leads and where tables are found; and the folder
of the file that the address names is there. -/
structure IsReady (s : DatabaseStore) (l : Location) (number : Nat) (t : Tables) (fs : Files) : Prop where
  made : ∀ l', DatabaseUrl.fileOfText? s.url = some l' → fs.makeFolder l'.parent = .ok fs
  address : ∃ engine access, DatabaseUrl.engineOfText s.url = .ok engine ∧
    engine.destination = .ok (.file l access) ∧ s.place = .file l number access.writes
  short : Files.nameBytes l.text ≤ maxNameBytes
  found : fs.find l = .ok (.file number (.tables t))

variable {s s' : DatabaseStore} {l : Location} {number : Nat} {t t' : Tables} {w w' : World} {url : String}
  {maxDepth : Option Nat}

theorem IsReady.run_tables (h : s.IsReady l number t w.files) : ExceptT.run s.tables w = (.ok t, w) := by
  obtain ⟨engine, access, -, -, hplace⟩ := h.address
  rw [tables, hplace]
  simp only [Action.run_bind_ok (Action.run_get w), Files.contentOf?_of_find h.found]
  rfl

theorem IsReady.of_entries {fs fs' : Files} (h : s.IsReady l number t fs) (hentries : fs'.entries = fs.entries) :
    s.IsReady l number t fs' where
  made l' hl' := Files.makeFolder_of_stays (h.made l' hl') (.of_entries hentries)
  address := h.address
  short := h.short
  found := (Files.find_congr hentries l).trans h.found

/-- A database puts other tables into its file, whatever that held. -/
theorem run_setTables_of_find {c : Content} {writes : Bool} (hplace : s.place = .file l number writes)
    (hfound : w.files.find l = .ok (.file number c)) (t' : Tables) :
    ∃ fs, ExceptT.run (s.setTables t') w = (.ok s, { w with files := fs }) ∧ w.files.Stays fs ∧
      fs.find l = .ok (.file number (.tables t')) := by
  obtain ⟨key, fs, hwrite, hk, he, hputs⟩ := Files.write_of_find hfound (.tables t')
  have hstays : w.files.Stays fs := by
    refine .of_puts hputs ?_
    rw [he]
    intro hfolder
    cases hfolder
  refine ⟨fs, ?_, hstays, hputs.find (hstays.key hk)⟩
  rw [setTables, hplace]
  exact Action.run_bind_ok (Action.run_changeFiles_ok hwrite)

/-- A database that takes other tables is ready with them. -/
theorem IsReady.setTables (h : s.IsReady l number t w.files)
    (hset : ExceptT.run (s.setTables t') w = (.ok s', w')) : s' = s ∧ s.IsReady l number t' w'.files := by
  obtain ⟨engine, access, -, -, hplace⟩ := h.address
  obtain ⟨fs, hrun, hstays, hfound⟩ := run_setTables_of_find hplace h.found t'
  cases hrun.symm.trans hset
  refine ⟨rfl, ?_, h.address, h.short, hfound⟩
  intro l' hl'
  exact Files.makeFolder_of_stays (h.made l' hl') hstays

/-- A database that takes rules is ready with the records that it had. -/
theorem IsReady.saveRules {rules : List Rule} (h : s.IsReady l number t w.files)
    (hsave : ExceptT.run (s.saveRules rules) w = (.ok s', w')) :
    s' = s ∧ s.IsReady l number { t with rules := RuleRow.ofRules rules } w'.files := by
  obtain ⟨t₁, t₂, w₁, htables, hreplace, hset, log, rfl⟩ := run_saveRules_eq_ok hsave
  cases h.run_tables.symm.trans htables
  rw [Tables.replaceRules_eq_ok hreplace] at hset
  obtain ⟨rfl, hready⟩ := h.setTables hset
  exact ⟨rfl, hready⟩

theorem IsReady.append {r : Record} (h : s.IsReady l number t w.files)
    (happend : ExceptT.run (s.append r) w = (.ok s', w')) :
    s' = s ∧ s.IsReady l number (withRecord t r) w'.files := by
  obtain ⟨t₁, htables, hset⟩ := run_append_eq_ok happend
  cases h.run_tables.symm.trans htables
  exact h.setTables hset

/-! ### Opening -/

/-- A database of which nothing is missing is connected to as it is. -/
theorem IsReady.run_openTables (h : s.IsReady l number t w.files) :
    ExceptT.run (openTables s.url s.maxDepth) w = (.ok s, w) := by
  obtain ⟨engine, access, hengine, hdestination, hplace⟩ := h.address
  have hfolder : ExceptT.run (makeFolder s.url) w = (.ok (), w) := by
    rw [makeFolder]
    cases hfile : DatabaseUrl.fileOfText? s.url with
    | none => rfl
    | some l' =>
      dsimp only
      rw [Action.tryFiles, Action.run_bind_ok (Action.run_get w), h.made l' hfile]
      rfl
  have hcontent : ExceptT.run (fileContent s.url l access.creates) w = (.ok (.tables t), w) := by
    rw [fileContent]
    dsimp only
    rw [if_neg (Nat.not_lt.2 h.short), Action.run_bind_ok (Action.run_get w), Files.content_of_find h.found]
    rfl
  rw [openTables, Action.run_bind_ok hfolder, connect, hengine]
  dsimp only
  rw [hdestination]
  dsimp only
  rw [openFile, Action.run_bind_ok hcontent, Action.run_bind_ok (Action.run_get w),
    Files.numberAt?_of_find h.found]
  obtain ⟨url, place, maxDepth⟩ := s
  cases hplace
  rfl

/-- Nothing is missing of a database whose file is open. -/
theorem isReady_of_openFile {engine : DatabaseUrl.Engine} {access : DatabaseUrl.Access}
    (hengine : DatabaseUrl.engineOfText url = .ok engine)
    (hdestination : engine.destination = .ok (.file l access))
    (hmade : ∀ l', DatabaseUrl.fileOfText? url = some l' → w.files.makeFolder l'.parent = .ok w.files)
    (h : ExceptT.run (openFile url maxDepth l access) w = (.ok s, w')) :
    ∃ number t, s.IsReady l number t w'.files := by
  obtain ⟨n, c, w₁, hshort, hgrows, -, hfind, hcases⟩ := run_openFile_eq_ok h
  have hplace : (DatabaseStore.mk url (.file l n access.writes) maxDepth).place = .file l n access.writes := rfl
  rcases hcases with ⟨t, rfl, rfl, rfl, rfl⟩ | ⟨-, hset⟩
  · exact ⟨n, t, hmade, ⟨engine, access, hengine, hdestination, hplace⟩, hshort, hfind⟩
  · obtain ⟨fs, hrun, hstays, hfound⟩ := run_setTables_of_find hplace hfind .empty
    cases hrun.symm.trans hset
    refine ⟨n, .empty, ?_, ⟨engine, access, hengine, hdestination, hplace⟩, hshort, hfound⟩
    intro l' hl'
    exact Files.makeFolder_of_stays (hmade l' hl') (.trans (.of_grows hgrows) hstays)

/-- Nothing is missing of a database that is connected to in a file. -/
theorem isReady_of_openTables (h : ExceptT.run (openTables url maxDepth) w = (.ok s, w'))
    (hfile : s.file?.isSome = true) : ∃ l number t, s.IsReady l number t w'.files := by
  obtain ⟨w₁, hfolder, ⟨separate, rfl, -⟩ | ⟨engine, l, access, hengine, hdestination, hopen⟩⟩ :=
    run_openTables_eq_ok h
  · cases hfile
  · have hmade : ∀ l', DatabaseUrl.fileOfText? url = some l' → w₁.files.makeFolder l'.parent = .ok w₁.files := by
      intro l' hl'
      rw [makeFolder, hl'] at hfolder
      obtain ⟨fs, hmade, rfl⟩ := Action.run_tryFiles_eq_ok hfolder
      exact Files.makeFolder_of_stays hmade (.of_entries rfl)
    exact ⟨l, isReady_of_openFile hengine hdestination hmade hopen⟩

/-- Nothing is missing of a database that was opened in a file. -/
theorem isReady_of_openAt {seed : Bool} (h : ExceptT.run (openAt url maxDepth seed) w = (.ok s, w'))
    (hfile : s.file?.isSome = true) : ∃ l number t, s.IsReady l number t w'.files := by
  obtain ⟨s₁, w₁, _, hopen, -, ⟨-, w₂, log, hsave, rfl⟩ | ⟨-, rfl, rfl⟩⟩ := run_openAt_eq_ok h
  · rw [(staysAt_of_saveRules hsave).file] at hfile
    obtain ⟨l, number, t, hready⟩ := isReady_of_openTables hopen hfile
    obtain ⟨rfl, hready'⟩ := hready.saveRules hsave
    exact ⟨l, number, _, hready'⟩
  · exact isReady_of_openTables hopen hfile

/-- A database is opened again as it is, unless it is to be seeded and has no rows of rules. -/
theorem IsReady.run_openAt (h : s.IsReady l number t w.files) {seed : Bool}
    (hseed : seed = true → t.rules ≠ []) :
    ExceptT.run (openAt s.url s.maxDepth seed) w = (.ok s, w) := by
  have hno : (seed && t.rules.isEmpty) = false := by
    cases seed with
    | false => rfl
    | true => exact List.isEmpty_eq_false_iff.2 (hseed rfl)
  rw [openAt, Action.run_bind_ok h.run_openTables, Action.run_bind_ok h.run_tables, hno]
  rfl

/-- A database without rows of rules that is opened to be seeded gets those of the default rules. -/
theorem IsReady.seeded (h : s.IsReady l number t w.files) (hempty : t.rules = [])
    (hopen : ExceptT.run (openAt s.url s.maxDepth true) w = (.ok s', w')) :
    s' = s ∧ s.IsReady l number { t with rules := RuleRow.ofRules (Rule.defaults w.now) } w'.files := by
  obtain ⟨s₁, w₁, t₁, hopened, htables, ⟨-, w₂, log, hsave, rfl⟩ | ⟨hfull, -, -⟩⟩ := run_openAt_eq_ok hopen
  · cases h.run_openTables.symm.trans hopened
    obtain ⟨rfl, hready⟩ := h.saveRules hsave
    exact ⟨rfl, hready⟩
  · cases h.run_openTables.symm.trans hopened
    cases h.run_tables.symm.trans htables
    exact absurd hempty (hfull rfl)

/-- A database that holds no rules can be opened with the default rules. -/
theorem run_openAt_seeded {since : Nat} {k : Stock} (hopen : ExceptT.run (openTables url none) w = (.ok s, w'))
    (h : s.Holds since w'.files k) (hk : k.IsSound) (hempty : k.rules = []) :
    ∃ s' w'', ExceptT.run (openAt url none true) w = (.ok s', w'') ∧
      s'.Holds since w''.files ⟨Rule.defaults w'.now, k.records⟩ := by
  have hyes : (true && k.tables.rules.isEmpty) = true := by rw [Stock.tables, hempty]; rfl
  have hdefaults := Stock.isSound_initial true w'.now
  have hk' : Stock.IsSound ⟨Rule.defaults w'.now, k.records⟩ := hk.of_rules hdefaults.orderly hdefaults.plain
  obtain ⟨s', w'', hsave, hholds, -⟩ := run_saveRules h hk'
  obtain ⟨log, hrun⟩ : ∃ log, ExceptT.run (openAt url none true) w = (.ok s', { w'' with log }) := by
    rw [openAt, Action.run_bind_ok hopen, Action.run_bind_ok (DatabaseStore.run_tables h.stores), hyes,
      if_pos rfl, Action.run_bind_ok (Action.run_now w'), Action.run_bind_ok hsave,
      Action.run_bind_ok (Action.run_log _ _ _ w'')]
    exact ⟨_, rfl⟩
  exact ⟨s', _, hrun, hholds⟩

/-! ### Reading -/

/-- A database gives no rules just where it has no rows of rules. -/
theorem IsReady.run_rules_eq_nil_iff (h : s.IsReady l number t w.files) :
    (ExceptT.run s.rules w).1 = .ok [] ↔ t.rules = [] := by
  rw [rules, Action.run_bind_ok h.run_tables]
  constructor
  · intro hrun
    have hrows : RuleRow.toRules (t.rules.mergeSort RuleRow.isBefore) = .ok [] := by
      cases hread : RuleRow.toRules (t.rules.mergeSort RuleRow.isBefore) with
      | ok rules =>
        rw [hread] at hrun
        cases hrun
        rfl
      | error e =>
        rw [hread] at hrun
        cases hrun
    have hsorted : t.rules.mergeSort RuleRow.isBefore = [] := by
      cases hrest : t.rules.mergeSort RuleRow.isBefore with
      | nil => rfl
      | cons row rest =>
        rw [hrest, RuleRow.toRules] at hrows
        split at hrows
        · cases hrows
        · obtain ⟨_, -, hcons⟩ := except_map_eq_ok.1 hrows
          cases hcons
    have hlength : (t.rules.mergeSort RuleRow.isBefore).length = t.rules.length := List.length_mergeSort _
    rw [hsorted] at hlength
    exact List.length_eq_zero_iff.1 hlength.symm
  · intro hempty
    rw [hempty, List.mergeSort_nil]
    rfl

/-- A database with rows of the default rules gives the default rules. -/
theorem IsReady.run_rules_of_defaults {now : Timestamp} {t : Tables}
    (h : s.IsReady l number { t with rules := RuleRow.ofRules (Rule.defaults now) } w.files) :
    ExceptT.run s.rules w = (.ok (Rule.defaults now), w) := by
  have hvalid : ∀ r ∈ Rule.defaults now, r.IsValid := fun _ => Rule.isValid_of_mem_defaults
  have hplain : ∀ r ∈ Rule.defaults now, r.IsPlain := fun _ => Rule.isPlain_of_mem_defaults
  rw [rules, Action.run_bind_ok h.run_tables]
  simp only [RuleRow.toRules_sorted fun r hr => (hvalid r hr).hasGroup, Rule.map_joined_of_isPlain hvalid hplain]
  rfl

/-- The records are those of the rows of records, whatever the rules are. -/
theorem IsReady.run_records (h : s.IsReady l number t w.files) :
    (ExceptT.run s.records w).1 =
      (ExceptT.run (Action.ofChecked (RecordRow.toRecords t.records) : Action (List Record)) w).1 := by
  rw [records, Action.run_bind_ok h.run_tables]

end DatabaseStore

/-! ## Stores -/

namespace Store

/-- A store that outlasts the session: a folder, or a database in a file. -/
def isPersistent : Store → Bool
  | memory _ _ => false
  | folder _ => true
  | database s => s.file?.isSome

/-- A store in a database. -/
def isDatabase : Store → Bool
  | database _ => true
  | _ => false

/-- A place of a database. -/
def Place.isDatabase : Place → Bool
  | database _ => true
  | _ => false

/-- A store at a place, of which nothing is missing. -/
def IsReady (limits : Json.Limits) (place : Place) (s : Store) (w : World) : Prop :=
  match s with
  | memory _ _ => False
  | folder s => place = .folder s.place ∧ s.maxDepth = limits.file ∧ s.IsReady w.files
  | database s =>
    place = .database s.url ∧ s.maxDepth = limits.column ∧ ∃ l number t, s.IsReady l number t w.files

/-- A database that gives no rules, so that opening it once more may give it default rules. -/
def IsBare (s : Store) (w : World) : Prop :=
  match s with
  | database d => (ExceptT.run d.rules w).1 = .ok []
  | _ => False

variable {limits : Json.Limits} {place : Place} {seed : Bool} {s s' : Store} {w w' : World}

/-- Nothing is missing of a store that was opened. -/
theorem isReady_of_openAt (h : ExceptT.run (openAt limits seed place) w = (.ok s, w'))
    (hp : s.isPersistent = true) : s.IsReady limits place w' := by
  cases place with
  | memory =>
    cases h
    cases hp
  | folder l =>
    obtain ⟨_, _, hprepare, hs⟩ := Action.run_bind_eq_ok h
    cases hs
    exact ⟨rfl, rfl, FolderStore.isReady_of_prepare hprepare⟩
  | database url =>
    obtain ⟨d, _, hopen, hs⟩ := Action.run_bind_eq_ok h
    cases hs
    obtain ⟨rfl, hdepth⟩ := DatabaseStore.limits_of_openAt hopen
    exact ⟨rfl, hdepth, DatabaseStore.isReady_of_openAt hopen hp⟩

namespace IsReady

theorem of_entries (h : s.IsReady limits place w) (hentries : w'.files.entries = w.files.entries) :
    s.IsReady limits place w' := by
  cases s with
  | memory rules records => exact h.elim
  | folder s =>
    obtain ⟨hplace, hdepth, hready⟩ := h
    exact ⟨hplace, hdepth, hready.of_stays (.of_entries hentries)⟩
  | database s =>
    obtain ⟨hplace, hdepth, l, number, t, hready⟩ := h
    exact ⟨hplace, hdepth, l, number, t, hready.of_entries hentries⟩

theorem isDatabase_eq (h : s.IsReady limits place w) : s.isDatabase = place.isDatabase := by
  cases s with
  | memory rules records => exact h.elim
  | folder s =>
    obtain ⟨rfl, -⟩ := h
    rfl
  | database s =>
    obtain ⟨rfl, -⟩ := h
    rfl

/-- Nothing is missing of a store that has taken rules. -/
theorem saveRules (h : s.IsReady limits place w) {rules : List Rule}
    (hsave : ExceptT.run (s.saveRules rules) w = (.ok s', w')) : s'.IsReady limits place w' := by
  cases s with
  | memory rules records => exact h.elim
  | folder s =>
    obtain ⟨hplace, hdepth, hready⟩ := h
    obtain ⟨_, _, hsave, hs⟩ := Action.run_bind_eq_ok hsave
    cases hs
    exact ⟨hplace, hdepth, hready.of_stays (FolderStore.stays_of_saveRules hsave)⟩
  | database s =>
    obtain ⟨hplace, hdepth, l, number, t, hready⟩ := h
    obtain ⟨d, _, hsave, hs⟩ := Action.run_bind_eq_ok hsave
    cases hs
    obtain ⟨rfl, hready'⟩ := hready.saveRules hsave
    exact ⟨hplace, hdepth, l, number, _, hready'⟩

/-- Nothing is missing of a store that has taken a record. -/
theorem append (h : s.IsReady limits place w) {r : Record}
    (happend : ExceptT.run (s.append r) w = (.ok s', w')) : s'.IsReady limits place w' := by
  cases s with
  | memory rules records => exact h.elim
  | folder s =>
    obtain ⟨hplace, hdepth, hready⟩ := h
    obtain ⟨_, _, happend, hs⟩ := Action.run_bind_eq_ok happend
    cases hs
    exact ⟨hplace, hdepth, hready.of_stays (FolderStore.stays_of_append happend)⟩
  | database s =>
    obtain ⟨hplace, hdepth, l, number, t, hready⟩ := h
    obtain ⟨d, _, happend, hs⟩ := Action.run_bind_eq_ok happend
    cases hs
    obtain ⟨rfl, hready'⟩ := hready.append happend
    exact ⟨hplace, hdepth, l, number, _, hready'⟩

/-- A store is bare at one time if it is at another. -/
theorem isBare_of_files (h : s.IsReady limits place w) (hbare : s.IsBare w') (hfiles : w'.files = w.files) :
    s.IsBare w := by
  cases s with
  | memory rules records => exact hbare
  | folder s => exact hbare
  | database s =>
    obtain ⟨-, -, l, number, t, hready⟩ := h
    have hready' : s.IsReady l number t w'.files := by
      rw [hfiles]
      exact hready
    exact hready.run_rules_eq_nil_iff.2 (hready'.run_rules_eq_nil_iff.1 hbare)

/-- A store of which nothing is missing is opened again as it is, unless it is bare and to be seeded. -/
theorem run_openAt (h : s.IsReady limits place w) (hseed : seed = true → ¬ s.IsBare w) :
    ExceptT.run (openAt limits seed place) w = (.ok s, w) := by
  cases s with
  | memory rules records => exact h.elim
  | folder s =>
    obtain ⟨rfl, hdepth, hready⟩ := h
    rw [openAt, ← hdepth]
    exact Action.run_bind_ok (FolderStore.run_prepare hready seed)
  | database s =>
    obtain ⟨rfl, hdepth, l, number, t, hready⟩ := h
    have hrows : seed = true → t.rules ≠ [] := fun hyes hempty =>
      hseed hyes (hready.run_rules_eq_nil_iff.2 hempty)
    rw [openAt, ← hdepth]
    exact Action.run_bind_ok (hready.run_openAt hrows)

/-- A bare store that is opened again to be seeded gives the default rules, and the records that it gave. -/
theorem seeded (h : s.IsReady limits place w) (hbare : s.IsBare w)
    (hopen : ExceptT.run (openAt limits true place) w = (.ok s', w')) :
    (ExceptT.run s'.rules w').1 = .ok (Rule.defaults w.now) ∧
      (ExceptT.run s'.records w').1 = (ExceptT.run s.records w).1 := by
  cases s with
  | memory rules records => exact h.elim
  | folder s => exact hbare.elim
  | database s =>
    obtain ⟨rfl, hdepth, l, number, t, hready⟩ := h
    have hempty := hready.run_rules_eq_nil_iff.1 hbare
    obtain ⟨d, _, hopen, hs⟩ := Action.run_bind_eq_ok hopen
    cases hs
    rw [← hdepth] at hopen
    obtain ⟨rfl, hready'⟩ := hready.seeded hempty hopen
    refine ⟨congrArg Prod.fst hready'.run_rules_of_defaults, ?_⟩
    refine hready'.run_records.trans (Eq.trans ?_ hready.run_records.symm)
    cases RecordRow.toRecords t.records with
    | ok records => rfl
    | error e => rfl

end IsReady

end Store

end RuleLabels
