import Mathlib.Tactic.Common
import RuleLabels.Proofs.Store.Logs

/-!
# Records that are given

A store that gives its records goes on giving them, whatever it takes: rules change nothing of them, and a
record that is taken comes behind them, as the store keeps it.  Unlike a log, records may be in the store from
before, and however they were written there.

* `Store.Gives`: a store gives some records, and will be found giving them;
* `Store.Gives.saveRules` and `Store.Gives.append`: what it gives after it has taken something;
* `Store.gives_of_openAt`: a store that was opened gives what it shows.
-/

namespace RuleLabels

theorem Record.readEach_append {path : Path} {i : Nat} {items : List Value} {records : List Record}
    (h : readEach path i items = .ok records) (r : Record) :
    readEach path i (items ++ [r.toValue]) = .ok (records ++ [r]) := by
  induction items generalizing i records with
  | nil =>
    cases h
    exact readEach_map_toValue [r] path i
  | cons v rest ih =>
    rw [readEach] at h
    rw [List.cons_append, readEach]
    split at h
    · cases h
    · obtain ⟨records', hrest, rfl⟩ := except_map_eq_ok.1 h
      rw [ih hrest]
      rfl

theorem RecordRow.toRecords_append {rows : List RecordRow} {records : List Record}
    (h : toRecords rows = .ok records) (r : Record) :
    toRecords (rows ++ [ofRecord r]) = .ok (records ++ [r.joined]) := by
  induction rows generalizing records with
  | nil =>
    cases h
    exact toRecords_ofRecord [r]
  | cons row rest ih =>
    rw [toRecords] at h
    rw [List.cons_append, toRecords]
    split at h
    · cases h
    · obtain ⟨records', hrest, rfl⟩ := except_map_eq_ok.1 h
      rw [ih hrest]
      rfl

/-! ## Folders -/

namespace FolderStore

/-- A folder gives records: its file of records is there, and they are read of it. -/
structure Gives (s : FolderStore) (records : List Record) (w : World) : Prop where
  found : ∃ number c, w.files.find s.recordsFile = .ok (.file number c)
  run_records : ExceptT.run s.records w = (.ok records, w)

variable {s : FolderStore} {records : List Record} {w w' : World}

/-- The records are read of their items. -/
theorem run_records_eq_ok (h : ExceptT.run s.records w = (.ok records, w)) :
    ∃ items, ExceptT.run s.recordItems w = (.ok items, w) ∧
      Record.readEach .document 0 items = .ok records := by
  obtain ⟨items, w₁, hitems, hread⟩ := Action.run_bind_eq_ok h
  obtain rfl := s.reads_recordItems.world_eq hitems
  refine ⟨items, hitems, ?_⟩
  split at hread
  · rename_i records' hrecords
    cases hread
    exact hrecords
  · cases hread

theorem run_records_of_items {items : List Value} (hitems : ExceptT.run s.recordItems w = (.ok items, w))
    (hread : Record.readEach .document 0 items = .ok records) :
    ExceptT.run s.records w = (.ok records, w) := by
  rw [FolderStore.records, Action.run_bind_ok hitems, hread]
  rfl

/-- A folder gives the same where its file of records is the same. -/
theorem Gives.of_find (h : s.Gives records w)
    (hfind : w'.files.find s.recordsFile = w.files.find s.recordsFile) : s.Gives records w' := by
  obtain ⟨items, hitems, hread⟩ := run_records_eq_ok h.run_records
  have hcontent : w'.files.content s.recordsFile = w.files.content s.recordsFile := by
    rw [Files.content, Files.content, hfind]
  refine ⟨hfind ▸ h.found, run_records_of_items ?_ hread⟩
  rw [s.reads_recordItems.run w', run_recordItems_of_content hcontent, hitems]

theorem Gives.saveRules {rules : List Rule} (h : s.Gives records w)
    (hsave : ExceptT.run (s.saveRules rules) w = (.ok (), w')) : s.Gives records w' := by
  obtain ⟨number, c, hfind⟩ := h.found
  exact h.of_find ((find_recordsFile_of_saveRules hsave hfind).trans hfind.symm)

theorem Gives.append {r : Record} (h : s.Gives records w)
    (happend : ExceptT.run (s.append r) w = (.ok (), w')) : s.Gives (records ++ [r]) w' := by
  obtain ⟨items, hitems, hread⟩ := run_records_eq_ok h.run_records
  rw [FolderStore.append, Action.run_bind_ok hitems] at happend
  obtain ⟨key, fs, rfl, hk, hne, hputs⟩ := run_writeDocument_eq_ok happend
  have hfind := hputs.find ((Files.Stays.of_puts hputs hne).key hk)
  refine ⟨⟨_, _, hfind⟩, run_records_of_items ?_ (Record.readEach_append hread r)⟩
  rw [recordItems, Action.run_bind_ok (run_readDocument hfind)]
  rfl

/-- A folder of which nothing is missing gives the records that it shows. -/
theorem gives_of_isReady (h : s.IsReady w.files) (hrecords : (ExceptT.run s.records w).1 = .ok records) :
    s.Gives records w := by
  have hrun : ExceptT.run s.records w = (.ok records, w) := by rw [s.reads_records.run w, hrecords]
  obtain ⟨items, hitems, -⟩ := run_records_eq_ok hrun
  obtain ⟨v, w₁, hdocument, -⟩ := Action.run_bind_eq_ok hitems
  exact ⟨found_of_run_readDocument h.records hdocument, hrun⟩

end FolderStore

/-! ## Databases -/

namespace DatabaseStore

/-- A database gives records: it has tables, and they are read of the rows. -/
def Gives (s : DatabaseStore) (records : List Record) (w : World) : Prop :=
  ∃ t, s.Has t w.files ∧ RecordRow.toRecords t.records = .ok records

variable {s s' : DatabaseStore} {records : List Record} {w w' : World}

theorem Gives.of_entries (h : s.Gives records w) (hentries : w'.files.entries = w.files.entries) :
    s.Gives records w' := by
  obtain ⟨t, hhas, hrows⟩ := h
  exact ⟨t, hhas.of_entries hentries, hrows⟩

theorem Gives.run_records (h : s.Gives records w) : ExceptT.run s.records w = (.ok records, w) := by
  obtain ⟨t, hhas, hrows⟩ := h
  rw [DatabaseStore.records, Action.run_bind_ok hhas.run_tables, hrows]
  rfl

theorem Gives.saveRules {rules : List Rule} (h : s.Gives records w)
    (hsave : ExceptT.run (s.saveRules rules) w = (.ok s', w')) : s'.Gives records w' := by
  obtain ⟨t, hhas, hrows⟩ := h
  obtain ⟨t₁, t', w₁, htables, hreplace, hset, messages, rfl⟩ := run_saveRules_eq_ok hsave
  cases hhas.run_tables.symm.trans htables
  have hhas' : s'.Has t' w₁.files := hhas.setTables hset
  rw [Tables.replaceRules_eq_ok hreplace] at hhas'
  exact ⟨_, hhas', hrows⟩

theorem Gives.append {r : Record} (h : s.Gives records w)
    (happend : ExceptT.run (s.append r) w = (.ok s', w')) : s'.Gives (records ++ [r.joined]) w' := by
  obtain ⟨t, hhas, hrows⟩ := h
  obtain ⟨t₁, htables, hset⟩ := run_append_eq_ok happend
  cases hhas.run_tables.symm.trans htables
  exact ⟨_, hhas.setTables hset, RecordRow.toRecords_append hrows r⟩

theorem gives_of_has {t : Tables} (h : s.Has t w.files)
    (hrecords : (ExceptT.run s.records w).1 = .ok records) : s.Gives records w := by
  refine ⟨t, h, ?_⟩
  rw [DatabaseStore.records, Action.run_bind_ok h.run_tables] at hrecords
  cases hrows : RecordRow.toRecords t.records with
  | ok records' =>
    rw [hrows] at hrecords
    cases hrecords
    rfl
  | error e =>
    rw [hrows] at hrecords
    cases hrecords

/-- Other threads see a database as they did before it took other tables. -/
theorem isSeparate_of_setTables {t : Tables} (h : ExceptT.run (s.setTables t) w = (.ok s', w')) :
    (Store.database s').isSeparate = (Store.database s).isSeparate := by
  obtain ⟨url, place, maxDepth⟩ := s
  cases place with
  | memory separate t' =>
    cases h
    rfl
  | bare =>
    cases h
    rfl
  | file l number writes =>
    obtain ⟨_, _, -, hs⟩ := Action.run_bind_eq_ok h
    cases hs
    rfl

end DatabaseStore

/-! ## Stores -/

namespace Store

/-- A store gives records. -/
def Gives (records : List Record) (s : Store) (w : World) : Prop :=
  match s with
  | memory _ records' => records' = records
  | folder s => s.Gives records w
  | database s => s.Gives records w

/-- A record as a store gives it that has taken it: in the columns of a database halves of characters are
joined. -/
def kept (r : Record) : Store → Record
  | database _ => r.joined
  | _ => r

variable {s s' : Store} {records : List Record} {w w' : World}

theorem Gives.of_entries (h : s.Gives records w) (hentries : w'.files.entries = w.files.entries) :
    s.Gives records w' := by
  cases s with
  | memory rules records' => exact h
  | folder s => exact FolderStore.Gives.of_find h (Files.find_congr hentries _)
  | database s => exact DatabaseStore.Gives.of_entries h hentries

theorem Gives.run_records (h : s.Gives records w) : ExceptT.run s.records w = (.ok records, w) := by
  cases s with
  | memory rules records' =>
    cases h
    rfl
  | folder s => exact FolderStore.Gives.run_records h
  | database s => exact DatabaseStore.Gives.run_records h

/-- Rules that are taken change nothing of the records. -/
theorem Gives.saveRules {rules : List Rule} (h : s.Gives records w)
    (hsave : ExceptT.run (s.saveRules rules) w = (.ok s', w')) : s'.Gives records w' := by
  cases s with
  | memory rules' records' =>
    cases hsave
    exact h
  | folder s =>
    obtain ⟨_, _, hsave, hstore⟩ := Action.run_bind_eq_ok hsave
    cases hstore
    exact FolderStore.Gives.saveRules h hsave
  | database s =>
    obtain ⟨_, _, hsave, hstore⟩ := Action.run_bind_eq_ok hsave
    cases hstore
    exact DatabaseStore.Gives.saveRules h hsave

/-- A record that is taken is given behind the others, as the store keeps it. -/
theorem Gives.append {r : Record} (h : s.Gives records w)
    (happend : ExceptT.run (s.append r) w = (.ok s', w')) : s'.Gives (records ++ [s.kept r]) w' := by
  cases s with
  | memory rules' records' =>
    cases h
    cases happend
    rfl
  | folder s =>
    obtain ⟨_, _, happend, hstore⟩ := Action.run_bind_eq_ok happend
    cases hstore
    exact FolderStore.Gives.append h happend
  | database s =>
    obtain ⟨_, _, happend, hstore⟩ := Action.run_bind_eq_ok happend
    cases hstore
    exact DatabaseStore.Gives.append h happend

/-- A store that was opened gives the records that it shows. -/
theorem gives_of_openAt {limits : Json.Limits} {seed : Bool} {place : Place}
    (h : ExceptT.run (openAt limits seed place) w = (.ok s, w'))
    (hrecords : (ExceptT.run s.records w').1 = .ok records) : s.Gives records w' := by
  cases place with
  | memory =>
    cases h
    cases hrecords
    rfl
  | folder l =>
    obtain ⟨_, _, hprepare, hs⟩ := Action.run_bind_eq_ok h
    cases hs
    exact FolderStore.gives_of_isReady (FolderStore.isReady_of_prepare hprepare) hrecords
  | database url =>
    obtain ⟨_, _, hopen, hs⟩ := Action.run_bind_eq_ok h
    cases hs
    obtain ⟨t, hhas⟩ := DatabaseStore.has_of_openAt hopen
    exact DatabaseStore.gives_of_has hhas hrecords

/-- A store that takes rules is shared with other threads as it was. -/
theorem isSeparate_of_saveRules {rules : List Rule} (h : ExceptT.run (s.saveRules rules) w = (.ok s', w')) :
    s'.isSeparate = s.isSeparate := by
  cases s with
  | memory rules' records' =>
    cases h
    rfl
  | folder s =>
    obtain ⟨_, _, -, hstore⟩ := Action.run_bind_eq_ok h
    cases hstore
    rfl
  | database s =>
    obtain ⟨_, _, hsave, hstore⟩ := Action.run_bind_eq_ok h
    cases hstore
    obtain ⟨_, _, _, -, -, hset, _, rfl⟩ := DatabaseStore.run_saveRules_eq_ok hsave
    exact DatabaseStore.isSeparate_of_setTables hset

/-- A store that takes a record is shared with other threads as it was. -/
theorem isSeparate_of_append {r : Record} (h : ExceptT.run (s.append r) w = (.ok s', w')) :
    s'.isSeparate = s.isSeparate := by
  cases s with
  | memory rules' records' =>
    cases h
    rfl
  | folder s =>
    obtain ⟨_, _, -, hstore⟩ := Action.run_bind_eq_ok h
    cases hstore
    rfl
  | database s =>
    obtain ⟨_, _, happend, hstore⟩ := Action.run_bind_eq_ok h
    cases hstore
    obtain ⟨_, -, hset⟩ := DatabaseStore.run_append_eq_ok happend
    exact DatabaseStore.isSeparate_of_setTables hset

end Store

end RuleLabels
