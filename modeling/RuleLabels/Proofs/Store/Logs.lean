import Mathlib.Tactic.Common
import RuleLabels.Proofs.Store.Reopening

/-!
# Stores as logs

A store logs records if it gives them as they were added, each behind those before it.  It logs whatever it
takes, as long as the halves of characters in payloads are joined; rules that it takes change nothing of
that.  A record that it does not take is refused for what would have to be written of it, or because nothing
may be written.

* `Store.Logs.run_records`: a store gives the records that it logs;
* `Store.Logs.saveRules` and `Store.Logs.append`: what it logs after it has taken something;
* `Store.Logs.run_append`: which records it takes;
* `Store.logs_of_openAt`: a store that was opened and gives no records logs none.
-/

namespace RuleLabels

open Text Value

/-! ## Labels in rows -/

namespace RuleRow

theorem label_of_toRule {row : RuleRow} {r : Rule} (h : row.toRule = .ok r) : r.label = row.label := by
  simp only [toRule, except_bind_eq_ok] at h
  obtain ⟨_, -, _, -, _, -, hr⟩ := h
  cases hr
  rfl

/-- The rules of rows have their labels. -/
theorem map_label_of_toRules {rows : List RuleRow} {rules : List Rule} (h : toRules rows = .ok rules) :
    rules.map Rule.label = rows.map RuleRow.label := by
  induction rows generalizing rules with
  | nil =>
    cases h
    rfl
  | cons row rest ih =>
    rw [toRules] at h
    split at h
    · cases h
    · rename_i r hr
      obtain ⟨rules', hrest, rfl⟩ := except_map_eq_ok.1 h
      rw [List.map_cons, List.map_cons, label_of_toRule hr, ih hrest]

/-- The rows of rules have their labels. -/
theorem map_label_ofRules (rules : List Rule) : (ofRules rules).map RuleRow.label = rules.map Rule.label :=
  map_ofRulesFrom (fun _ _ => rfl) 0 rules

end RuleRow

/-- The labels of rows that tables take are whole. -/
theorem Tables.isWhole_of_addRules {t t' : Tables} {rows : List RuleRow} (h : t.addRules rows = .ok t') :
    ∀ label ∈ rows.map RuleRow.label, isWhole label = true := by
  induction rows generalizing t with
  | nil => exact fun _ hrow => nomatch hrow
  | cons row rest ih =>
    obtain ⟨t₁, hadd, hrest⟩ := except_bind_eq_ok.1 h
    refine List.forall_mem_cons.2 ⟨?_, ih hrest⟩
    rw [addRule] at hadd
    split at hadd
    · cases hadd
    · rename_i hbytes
      exact isWhole_of_encodeError? (List.findSome?_eq_none_iff.1 hbytes row.label (by simp))

theorem Tables.isWhole_of_replaceRules {t t' : Tables} {maxDepth : Option Nat} {rules : List Rule}
    (h : t.replaceRules maxDepth rules = .ok t') : ∀ label ∈ rules.map Rule.label, isWhole label = true := by
  rw [replaceRules] at h
  split at h
  · cases h
  · rw [← RuleRow.map_label_ofRules]
    exact isWhole_of_addRules h

/-! ## What is refused -/

namespace Json

theorem itemRefusal?_append {p : Purpose} {depth : Nat} {items : List Value}
    (h : itemRefusal? p depth items = none) (v : Value) :
    itemRefusal? p depth (items ++ [v]) = itemRefusal? p depth [v] := by
  induction items with
  | nil => rfl
  | cons w rest ih =>
    rw [itemRefusal?] at h
    split at h
    · cases h
    · rename_i hw
      rw [List.cons_append, itemRefusal?, hw]
      exact ih h

/-- A document is refused for an item that is added, if it was not refused before. -/
theorem refusal?_array_append {p : Purpose} {items : List Value} (h : itemRefusal? p 1 items = none)
    (v : Value) : refusal? p (.array (items ++ [v])) = refusal? p (.array [v]) := by
  rw [refusal?, refusal?, refusalAt?, refusalAt?, itemRefusal?_append h]

theorem itemRefusal?_of_refusal? {p : Purpose} {items : List Value} (h : refusal? p (.array items) = none) :
    itemRefusal? p 1 items = none := by
  rw [refusal?, refusalAt?] at h
  split at h
  · cases h
  · exact h

end Json

/-- Why a store refuses a record: a folder for its document; a database for its payload, or because it may
only be read. -/
def Store.refusal? (r : Record) : Store → Option Failure
  | memory _ _ => none
  | folder s => (Json.refusal? (.file s.maxDepth) (.array [r.toValue])).map .unwritable
  | database s =>
    match Json.refusal? (.column s.maxDepth) (.object r.payload) with
    | some f => some (.unstorable f)
    | none => if s.writes then none else some (.database .readOnly)

/-! ## Folders -/

namespace FolderStore

/-- A folder logs records: its file of records is there and holds them, and can be written again. -/
structure Logs (s : FolderStore) (log : List Record) (w : World) : Prop where
  found : ∃ number c, w.files.find s.recordsFile = .ok (.file number c)
  items : ExceptT.run s.recordItems w = (.ok (log.map Record.toValue), w)
  written : Json.itemRefusal? (.file s.maxDepth) 1 (log.map Record.toValue) = none

variable {s : FolderStore} {log : List Record} {w w' : World}

/-- The document in a file is read of its content alone. -/
theorem run_readDocument_of_content {l : Location} (h : w'.files.content l = w.files.content l) :
    (ExceptT.run (readDocument l) w').1 = (ExceptT.run (readDocument l) w).1 := by
  rw [readDocument, Action.run_bind_ok (Action.run_get w), Action.run_bind_ok (Action.run_get w'), h]
  dsimp only
  split
  · split <;> rfl
  · rfl
  · split
    · rfl
    · split <;> rfl

theorem run_recordItems_of_content (h : w'.files.content s.recordsFile = w.files.content s.recordsFile) :
    (ExceptT.run s.recordItems w').1 = (ExceptT.run s.recordItems w).1 := by
  have hread := run_readDocument_of_content h
  rw [recordItems, Action.run_bind, Action.run_bind, (reads_readDocument _).run w,
    (reads_readDocument _).run w', hread]
  cases (ExceptT.run (readDocument s.recordsFile) w).1 with
  | ok v =>
    dsimp only
    cases v <;> rfl
  | error e => rfl

/-- A folder logs the same where its file of records is the same. -/
theorem Logs.of_find (h : s.Logs log w) (hfind : w'.files.find s.recordsFile = w.files.find s.recordsFile) :
    s.Logs log w' := by
  refine ⟨?_, ?_, h.written⟩
  · rw [hfind]
    exact h.found
  · have hcontent : w'.files.content s.recordsFile = w.files.content s.recordsFile := by
      rw [Files.content, Files.content, hfind]
    rw [(reads_recordItems s).run w', run_recordItems_of_content hcontent, h.items]

theorem Logs.run_records (h : s.Logs log w) : ExceptT.run s.records w = (.ok log, w) := by
  rw [records, Action.run_bind_ok h.items]
  simp only [Record.readEach_map_toValue]
  rfl

/-- The file of the records is not the file of the rules. -/
theorem find_recordsFile_of_saveRules {rules : List Rule} {number : Nat} {c : Content}
    (hsave : ExceptT.run (s.saveRules rules) w = (.ok (), w'))
    (h : w.files.find s.recordsFile = .ok (.file number c)) :
    w'.files.find s.recordsFile = .ok (.file number c) := by
  obtain ⟨_, w₁, hwrite, hlog⟩ := Action.run_bind_eq_ok hsave
  rw [Action.run_log] at hlog
  cases hlog
  obtain ⟨key, fs, rfl, hk, hne, hputs⟩ := run_writeDocument_eq_ok hwrite
  obtain ⟨key', hk', he⟩ := Files.find_eq_ok_iff.1 h
  have hkey : key' ≠ key := by
    rintro rfl
    have hlast := Files.getLast?_of_key_child (by decide) hk
    have hlast' := Files.getLast?_of_key_child (by decide) hk'
    rw [hlast] at hlast'
    exact absurd hlast' (by decide)
  refine Files.find_eq_ok_iff.2 ⟨key', (Files.Stays.of_puts hputs hne).key hk', ?_⟩
  rw [hputs key', if_neg hkey, he]

theorem Logs.saveRules {rules : List Rule} (h : s.Logs log w)
    (hsave : ExceptT.run (s.saveRules rules) w = (.ok (), w')) : s.Logs log w' := by
  obtain ⟨number, c, hfind⟩ := h.found
  exact h.of_find ((find_recordsFile_of_saveRules hsave hfind).trans hfind.symm)

theorem Logs.append {r : Record} (h : s.Logs log w)
    (happend : ExceptT.run (s.append r) w = (.ok (), w')) : s.Logs (log ++ [r]) w' := by
  rw [FolderStore.append, Action.run_bind_ok h.items] at happend
  have hrefusal := refusal?_of_run_writeDocument happend
  obtain ⟨key, fs, rfl, hk, hne, hputs⟩ := run_writeDocument_eq_ok happend
  have hfind := hputs.find ((Files.Stays.of_puts hputs hne).key hk)
  refine ⟨⟨_, _, hfind⟩, ?_, ?_⟩
  · rw [recordItems, Action.run_bind_ok (run_readDocument hfind), List.map_append]
    rfl
  · rw [List.map_append]
    exact Json.itemRefusal?_of_refusal? hrefusal

/-- A folder takes a record unless its document is refused. -/
theorem Logs.run_append (h : s.Logs log w) (r : Record) :
    (∃ f w', Json.refusal? (.file s.maxDepth) (.array [r.toValue]) = some f ∧
        ExceptT.run (s.append r) w = (.error (.unwritable f), w')) ∨
      (Json.refusal? (.file s.maxDepth) (.array [r.toValue]) = none ∧
        ∃ w', ExceptT.run (s.append r) w = (.ok (), w')) := by
  rw [← Json.refusal?_array_append h.written, FolderStore.append, Action.run_bind_ok h.items]
  obtain ⟨number, c, hfind⟩ := h.found
  cases hr : Json.refusal? (.file s.maxDepth) (.array (log.map Record.toValue ++ [r.toValue])) with
  | none => exact .inr ⟨rfl, run_writeDocument_of_find hr hfind⟩
  | some f =>
    obtain ⟨key, hk, -⟩ := Files.find_eq_ok_iff.1 hfind
    obtain ⟨w', hwrite⟩ := run_writeDocument_of_refusal? hr hk
    exact .inl ⟨f, w', rfl, hwrite⟩

/-- What was read of a file that is there was read of no folder. -/
theorem found_of_run_readDocument {l : Location} {v : Value} (hhas : w.files.has l = true)
    (h : ExceptT.run (readDocument l) w = (.ok v, w')) :
    ∃ number c, w.files.find l = .ok (.file number c) := by
  rw [Files.has] at hhas
  cases hfind : w.files.find l with
  | error f =>
    rw [hfind] at hhas
    cases hhas
  | ok e =>
    cases e with
    | file number c => exact ⟨number, c, rfl⟩
    | folder =>
      rw [readDocument, Action.run_bind_ok (Action.run_get w), Files.content, hfind] at h
      cases h

end FolderStore

/-! ## Databases -/

namespace DatabaseStore

/-- A database has tables, in memory or in its file. -/
def Has (s : DatabaseStore) (t : Tables) (fs : Files) : Prop :=
  match s.place with
  | .memory _ t' => t' = t
  | .bare => False
  | .file l number _ => fs.find l = .ok (.file number (.tables t))

/-- A database logs records: its rows are read back as they are, and the labels of its rules are whole. -/
structure Logs (s : DatabaseStore) (log : List Record) (w : World) : Prop where
  rows : ∃ t, s.Has t w.files ∧ t.records = log.map RecordRow.ofRecord
  joined : log.map Record.joined = log
  labels : ∀ rules, (ExceptT.run s.rules w).1 = .ok rules →
    ∀ label ∈ rules.map Rule.label, isWhole label = true

variable {s s' : DatabaseStore} {t t' : Tables} {log : List Record} {w w' : World}

theorem Has.run_tables (h : s.Has t w.files) : ExceptT.run s.tables w = (.ok t, w) := by
  obtain ⟨url, place, maxDepth⟩ := s
  cases place with
  | memory separate t' =>
    cases h
    rfl
  | bare => exact h.elim
  | file l number writes =>
    rw [tables]
    simp only [Action.run_bind_ok (Action.run_get w), Files.contentOf?_of_find h]
    rfl

/-- A database that has tables may be written unless it may only be read. -/
theorem Has.run_checkWritable (h : s.Has t w.files) :
    ExceptT.run s.checkWritable w = (if s.writes then .ok () else .error (.database .readOnly), w) := by
  have hplace : s.inPlace w.files = true := by
    obtain ⟨url, place, maxDepth⟩ := s
    cases place with
    | file l number writes => simp only [inPlace, Files.numberAt?_of_find h, decide_true]
    | _ => rfl
  rw [checkWritable, Action.run_bind_ok (Action.run_get w), hplace]
  cases s.writes <;> rfl

/-- A database takes other tables, and has them then. -/
theorem Has.run_setTables (h : s.Has t w.files) (t' : Tables) :
    ∃ s' w', ExceptT.run (s.setTables t') w = (.ok s', w') ∧ s'.Has t' w'.files := by
  obtain ⟨url, place, maxDepth⟩ := s
  cases place with
  | memory separate old => exact ⟨_, w, rfl, rfl⟩
  | bare => exact h.elim
  | file l number writes =>
    have hplace : (DatabaseStore.mk url (.file l number writes) maxDepth).place = .file l number writes := rfl
    obtain ⟨fs, hrun, -, hfind⟩ := run_setTables_of_find hplace h t'
    exact ⟨_, _, hrun, hfind⟩

theorem Has.of_entries {fs fs' : Files} (h : s.Has t fs) (hentries : fs'.entries = fs.entries) :
    s.Has t fs' := by
  obtain ⟨url, place, maxDepth⟩ := s
  cases place with
  | file l number writes => exact (Files.find_congr hentries l).trans h
  | _ => exact h

theorem Has.setTables (h : s.Has t w.files) (hset : ExceptT.run (s.setTables t') w = (.ok s', w')) :
    s'.Has t' w'.files := by
  obtain ⟨s₁, w₁, hrun, hhas⟩ := h.run_setTables t'
  cases hrun.symm.trans hset
  exact hhas

/-- The rules of a database have the labels of its rows. -/
theorem Has.label_mem (h : s.Has t w.files) {rules : List Rule}
    (hrules : (ExceptT.run s.rules w).1 = .ok rules) :
    ∀ label ∈ rules.map Rule.label, label ∈ t.rules.map RuleRow.label := by
  rw [DatabaseStore.rules, Action.run_bind_ok h.run_tables] at hrules
  split at hrules
  · rename_i given hgiven
    cases hrules
    rw [RuleRow.map_label_of_toRules hgiven]
    have hsorted := (List.mergeSort_perm t.rules RuleRow.isBefore).map RuleRow.label
    exact fun label hlabel => hsorted.subset hlabel
  · cases hrules

/-- Databases with the same rows of rules give the same rules. -/
theorem Has.run_rules_congr (h : s.Has t w.files) (h' : s'.Has t' w'.files) (hrules : t'.rules = t.rules) :
    (ExceptT.run s'.rules w').1 = (ExceptT.run s.rules w).1 := by
  rw [rules, rules, Action.run_bind_ok h.run_tables, Action.run_bind_ok h'.run_tables, hrules]
  cases RuleRow.toRules (t.rules.mergeSort RuleRow.isBefore) <;> rfl

theorem Logs.of_entries (h : s.Logs log w) (hentries : w'.files.entries = w.files.entries) :
    s.Logs log w' := by
  obtain ⟨t, hhas, hrecords⟩ := h.rows
  have hhas' := hhas.of_entries hentries
  refine ⟨⟨t, hhas', hrecords⟩, h.joined, ?_⟩
  rw [hhas.run_rules_congr hhas' rfl]
  exact h.labels

theorem Logs.run_records (h : s.Logs log w) : ExceptT.run s.records w = (.ok log, w) := by
  obtain ⟨t, hhas, hrecords⟩ := h.rows
  rw [records, Action.run_bind_ok hhas.run_tables, hrecords]
  simp only [RecordRow.toRecords_ofRecord, h.joined]
  rfl

theorem Logs.saveRules {rules : List Rule} (h : s.Logs log w)
    (hsave : ExceptT.run (s.saveRules rules) w = (.ok s', w')) : s'.Logs log w' := by
  obtain ⟨t, hhas, hrecords⟩ := h.rows
  obtain ⟨t₁, t', w₁, htables, hreplace, hset, messages, rfl⟩ := run_saveRules_eq_ok hsave
  cases hhas.run_tables.symm.trans htables
  have hhas' : s'.Has t' w₁.files := hhas.setTables hset
  have hwhole := Tables.isWhole_of_replaceRules hreplace
  rw [Tables.replaceRules_eq_ok hreplace] at hhas'
  refine ⟨⟨_, hhas', hrecords⟩, h.joined, ?_⟩
  intro given hgiven label hlabel
  have hrow := Has.label_mem (w := { w₁ with log := messages }) hhas' hgiven label hlabel
  rw [RuleRow.map_label_ofRules] at hrow
  exact hwhole label hrow

theorem Logs.append {r : Record} {rules : List Rule} (h : s.Logs log w)
    (happend : ExceptT.run (s.append r) w = (.ok s', w'))
    (hpayload : Json.joinedFields r.payload = r.payload) (hrules : (ExceptT.run s.rules w).1 = .ok rules)
    (hlabels : ∀ label ∈ r.labels, label ∈ rules.map Rule.label) : s'.Logs (log ++ [r]) w' := by
  obtain ⟨t, hhas, hrecords⟩ := h.rows
  obtain ⟨t₁, htables, hset⟩ := run_append_eq_ok happend
  cases hhas.run_tables.symm.trans htables
  have hhas' : s'.Has (withRecord t r) w'.files := hhas.setTables hset
  have hjoined : r.joined = r := by
    have hall : r.labels.map joinedHalves = r.labels := by
      refine (List.map_congr_left fun label hlabel => ?_).trans (List.map_id _)
      exact joinedHalves_of_isWhole (h.labels rules hrules label (hlabels label hlabel))
    rw [Record.joined, hpayload, hall]
  refine ⟨⟨_, hhas', ?_⟩, ?_, ?_⟩
  · rw [withRecord, hrecords, List.map_append, List.map_singleton]
  · rw [List.map_append, h.joined, List.map_singleton, hjoined]
  · rw [hhas.run_rules_congr hhas' rfl]
    exact h.labels

/-- A database that is connected to has tables. -/
theorem has_of_openTables {url : String} {maxDepth : Option Nat}
    (h : ExceptT.run (openTables url maxDepth) w = (.ok s, w')) : ∃ t, s.Has t w'.files := by
  obtain ⟨w₁, -, ⟨separate, rfl, rfl⟩ | ⟨engine, l, access, -, -, hopen⟩⟩ := run_openTables_eq_ok h
  · exact ⟨.empty, rfl⟩
  · obtain ⟨n, c, w₂, -, -, -, hfind, ⟨t, rfl, rfl, rfl, rfl⟩ | ⟨-, hset⟩⟩ := run_openFile_eq_ok hopen
    · exact ⟨t, hfind⟩
    · have hplace :
          (DatabaseStore.mk url (.file l n access.writes) maxDepth).place = .file l n access.writes := rfl
      obtain ⟨fs, hrun, -, hfind'⟩ := run_setTables_of_find hplace hfind .empty
      cases hrun.symm.trans hset
      exact ⟨.empty, hfind'⟩

/-- A database that was opened has tables. -/
theorem has_of_openAt {url : String} {maxDepth : Option Nat} {seed : Bool}
    (h : ExceptT.run (openAt url maxDepth seed) w = (.ok s, w')) : ∃ t, s.Has t w'.files := by
  obtain ⟨s₁, w₁, _, hopen, -, ⟨-, w₂, _, hsave, rfl⟩ | ⟨-, rfl, rfl⟩⟩ := run_openAt_eq_ok h
  · obtain ⟨t, hhas⟩ := has_of_openTables hopen
    obtain ⟨_, t', w₃, htables, -, hset, _, rfl⟩ := run_saveRules_eq_ok hsave
    cases hhas.run_tables.symm.trans htables
    have hhas' : s.Has t' w₃.files := hhas.setTables hset
    exact ⟨t', hhas'⟩
  · exact has_of_openTables hopen

/-- A database takes a record with a new identifier unless its payload is refused, or it may only be read. -/
theorem Logs.run_append {r : Record} (h : s.Logs log w) (hid : isWhole r.id = true)
    (hnew : r.id ∉ log.map Record.id) :
    (∃ e, (Store.database s).refusal? r = some e ∧ ExceptT.run (s.append r) w = (.error e, w)) ∨
      ((Store.database s).refusal? r = none ∧ ∃ s' w', ExceptT.run (s.append r) w = (.ok s', w')) := by
  obtain ⟨t, hhas, hrecords⟩ := h.rows
  have hfree : t.records.any (·.id = r.id) = false := by
    rw [hrecords, List.any_eq_false]
    intro row hrow
    obtain ⟨other, hother, rfl⟩ := List.mem_map.1 hrow
    rw [Bool.not_eq_true]
    exact decide_eq_false fun heq : other.id = r.id => hnew (heq ▸ List.mem_map_of_mem hother)
  rw [Store.refusal?, DatabaseStore.append]
  cases hr : Json.refusal? (.column s.maxDepth) (.object r.payload) with
  | some f => exact .inl ⟨_, rfl, rfl⟩
  | none =>
    simp only [Text.encodeError?_of_isWhole hid]
    rw [Action.run_bind_ok hhas.run_tables]
    simp only [hfree, Bool.and_false]
    have hcheck := hhas.run_checkWritable
    cases hwrites : s.writes with
    | false =>
      rw [hwrites] at hcheck
      exact .inl ⟨_, rfl, Action.run_bind_error hcheck⟩
    | true =>
      rw [hwrites] at hcheck
      obtain ⟨s', w', hset, -⟩ := hhas.run_setTables (withRecord t r)
      exact .inr ⟨rfl, s', w', (Action.run_bind_ok hcheck).trans hset⟩

end DatabaseStore

/-! ## Stores -/

namespace Store

/-- A store logs records. -/
def Logs (log : List Record) (s : Store) (w : World) : Prop :=
  match s with
  | memory _ records => records = log
  | folder s => s.Logs log w
  | database s => s.Logs log w

variable {s s' : Store} {log : List Record} {w w' : World}

/-- The time, the identifiers and the messages are no part of a log. -/
theorem Logs.of_entries (h : s.Logs log w) (hentries : w'.files.entries = w.files.entries) :
    s.Logs log w' := by
  cases s with
  | memory rules records => exact h
  | folder s => exact FolderStore.Logs.of_find h (Files.find_congr hentries _)
  | database s => exact DatabaseStore.Logs.of_entries h hentries

/-- A store gives the records that it logs. -/
theorem Logs.run_records (h : s.Logs log w) : ExceptT.run s.records w = (.ok log, w) := by
  cases s with
  | memory rules records =>
    cases h
    rfl
  | folder s => exact FolderStore.Logs.run_records h
  | database s => exact DatabaseStore.Logs.run_records h

/-- Rules that are taken change nothing of a log. -/
theorem Logs.saveRules {rules : List Rule} (h : s.Logs log w)
    (hsave : ExceptT.run (s.saveRules rules) w = (.ok s', w')) : s'.Logs log w' := by
  cases s with
  | memory rules' records =>
    cases hsave
    exact h
  | folder s =>
    obtain ⟨_, _, hsave, hstore⟩ := Action.run_bind_eq_ok hsave
    cases hstore
    exact FolderStore.Logs.saveRules h hsave
  | database s =>
    obtain ⟨_, _, hsave, hstore⟩ := Action.run_bind_eq_ok hsave
    cases hstore
    exact DatabaseStore.Logs.saveRules h hsave

/-- A record that is taken is the last one of the log, if its labels are labels of the rules. -/
theorem Logs.append {r : Record} {rules : List Rule} (h : s.Logs log w)
    (happend : ExceptT.run (s.append r) w = (.ok s', w'))
    (hpayload : Json.joinedFields r.payload = r.payload) (hrules : (ExceptT.run s.rules w).1 = .ok rules)
    (hlabels : ∀ label ∈ r.labels, label ∈ rules.map Rule.label) : s'.Logs (log ++ [r]) w' := by
  cases s with
  | memory rules' records =>
    cases h
    cases happend
    rfl
  | folder s =>
    obtain ⟨_, _, happend, hstore⟩ := Action.run_bind_eq_ok happend
    cases hstore
    exact FolderStore.Logs.append h happend
  | database s =>
    obtain ⟨_, _, happend, hstore⟩ := Action.run_bind_eq_ok happend
    cases hstore
    exact DatabaseStore.Logs.append h happend hpayload hrules hlabels

/-- A store takes a record with a new identifier, or refuses it. -/
theorem Logs.run_append {r : Record} (h : s.Logs log w) (hid : isWhole r.id = true)
    (hnew : r.id ∉ log.map Record.id) :
    (∃ e w', s.refusal? r = some e ∧ ExceptT.run (s.append r) w = (.error e, w')) ∨
      (s.refusal? r = none ∧ ∃ s' w', ExceptT.run (s.append r) w = (.ok s', w')) := by
  cases s with
  | memory rules records => exact .inr ⟨rfl, _, w, rfl⟩
  | folder s =>
    rw [refusal?]
    rcases FolderStore.Logs.run_append h r with ⟨f, w', hr, happend⟩ | ⟨hr, w', happend⟩
    · exact .inl ⟨_, w', congrArg _ hr, Action.run_bind_error happend⟩
    · exact .inr ⟨congrArg _ hr, folder s, w', Action.run_bind_ok happend⟩
  | database s =>
    rcases DatabaseStore.Logs.run_append h hid hnew with ⟨e, hr, happend⟩ | ⟨hr, s', w', happend⟩
    · exact .inl ⟨e, w, hr, Action.run_bind_error happend⟩
    · exact .inr ⟨hr, database s', w', Action.run_bind_ok happend⟩

end Store

end RuleLabels
