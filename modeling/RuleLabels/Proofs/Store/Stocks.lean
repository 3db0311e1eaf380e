import Mathlib.Tactic.Common
import RuleLabels.Proofs.Store.Failing
import RuleLabels.Proofs.Store.Rows

/-!
# What stores store

A stock is the rules and the records that a store was given.  A folder stores them as two documents, and a
database as rows of two tables.  What a store has taken is what it stores from then on, and taking it reaches
no file that is older than those of the store.

* `Store.stores_of_saveRules` and `Store.stores_of_append`: what is stored after a store has taken something;
* `Store.Stores.congr`: worlds that are alike store the same.
-/

namespace RuleLabels

/-! ## Stocks -/

/-- The rules and the records of a store. -/
structure Stock where
  rules : List Rule
  records : List Record

namespace Stock

/-- The tables that keep a stock. -/
def tables (k : Stock) : Tables := ⟨RuleRow.ofRules k.rules, k.records.map RecordRow.ofRecord⟩

/-- The document of the records of a stock. -/
def recordsDocument (k : Stock) : Value := .array (k.records.map Record.toValue)

end Stock

/-! ## Surroundings -/

/-- What a store leaves when it is written: the time, the identifiers, and every file with a number below
that of its own files. -/
structure World.Keeps (since : Nat) (w w' : World) : Prop where
  now : w'.now = w.now
  ids : w'.ids = w.ids
  find : ∀ l, (∀ n c, w.files.find l = .ok (.file n c) → n < since) → w'.files.find l = w.files.find l

namespace World.Keeps

theorem refl (since : Nat) (w : World) : w.Keeps since w := ⟨rfl, rfl, fun _ _ => rfl⟩

/-- A message changes nothing but the log. -/
theorem log {since : Nat} {w w' : World} (h : w.Keeps since w') (log : Log) :
    w.Keeps since { w' with log } := ⟨h.now, h.ids, h.find⟩

end World.Keeps

namespace Action

/-- Writing a file of a number from a bound on leaves the files below the bound. -/
theorem run_write {w : World} {l : Location} {number since : Nat} {c : Content}
    (h : w.files.find l = .ok (.file number c)) (hsince : since ≤ number) (c' : Content) :
    ∃ w', ExceptT.run (changeFiles fun files => files.write l c') w = (.ok (), w') ∧ w.Keeps since w' ∧
      w'.files.find l = .ok (.file number c') ∧
      ∀ l', (∀ n d, w.files.find l' = .ok (.file n d) → n ≠ number) →
        w'.files.find l' = w.files.find l' := by
  obtain ⟨fs, hwrite, hself, hothers⟩ := Files.find_write_of_find h c'
  refine ⟨{ w with files := fs }, run_changeFiles_ok hwrite, ⟨rfl, rfl, ?_⟩, hself, hothers⟩
  intro l' hold
  refine hothers l' fun n d hn => ?_
  have := hold n d hn
  omega

end Action

/-! ## Folders -/

namespace FolderStore

/-- A folder stores a stock in two files with numbers from a bound on. -/
def Stores (s : FolderStore) (since : Nat) (fs : Files) (k : Stock) : Prop :=
  ∃ n m, since ≤ n ∧ since ≤ m ∧ n ≠ m ∧
    fs.find s.rulesFile = .ok (.file n (.document (rulesDocument k.rules))) ∧
    fs.find s.recordsFile = .ok (.file m (.document k.recordsDocument))

variable {s : FolderStore} {since : Nat} {w w' : World} {k : Stock}

theorem run_readDocument {l : Location} {number : Nat} {v : Value}
    (h : w.files.find l = .ok (.file number (.document v))) :
    ExceptT.run (readDocument l) w = (.ok v, w) := by
  rw [readDocument, Action.run_bind_ok (Action.run_get w)]
  simp only [Files.content_of_find h]
  rfl

theorem run_recordItems (h : s.Stores since w.files k) :
    ExceptT.run s.recordItems w = (.ok (k.records.map Record.toValue), w) := by
  obtain ⟨n, m, -, -, -, -, hrecords⟩ := h
  rw [recordItems, Action.run_bind_ok (run_readDocument hrecords)]
  rfl

theorem run_records (h : s.Stores since w.files k) : ExceptT.run s.records w = (.ok k.records, w) := by
  rw [records, Action.run_bind_ok (run_recordItems h)]
  simp only [Record.readEach_map_toValue]
  rfl

/-- Replacing a file of a number from a bound on leaves the files below the bound. -/
theorem keeps_of_writeDocument {l : Location} {number : Nat} {c : Content} {v : Value}
    (h : ExceptT.run (s.writeDocument l v) w = (.ok (), w'))
    (hfind : w.files.find l = .ok (.file number c)) (hsince : since ≤ number) :
    w.Keeps since w' ∧ w'.files.find l = .ok (.file w.files.next (.document v)) ∧
      ∀ l', (∀ n d, w.files.find l' = .ok (.file n d) → n ≠ number) →
        w'.files.find l' = w.files.find l' := by
  obtain ⟨key, fs, rfl, hk, -, hputs⟩ := run_writeDocument_eq_ok h
  obtain ⟨key', hk', he⟩ := Files.find_eq_ok_iff.1 hfind
  cases hk.symm.trans hk'
  refine ⟨⟨rfl, rfl, ?_⟩, hputs.find ((hputs.key_of_file he l).trans hk), fun l' => hputs.find_of_file he⟩
  intro l' hold
  refine hputs.find_of_file he fun n d hn => ?_
  have := hold n d hn
  omega

/-- Rules that a folder has taken are the rules that it stores. -/
theorem stores_of_saveRules {rules : List Rule} (h : s.Stores since w.files k)
    (hsave : ExceptT.run (s.saveRules rules) w = (.ok (), w')) :
    s.Stores since w'.files ⟨rules, k.records⟩ ∧ w.Keeps since w' := by
  obtain ⟨n, m, hn, hm, hne, hrules, hrecords⟩ := h
  obtain ⟨_, w₁, hwrite, hlog⟩ := Action.run_bind_eq_ok hsave
  obtain ⟨hkeeps, hself, hothers⟩ := keeps_of_writeDocument hwrite hrules hn
  have hrest : w₁.files.find s.recordsFile = .ok (.file m (.document k.recordsDocument)) := by
    rw [hothers s.recordsFile, hrecords]
    intro n' d hd
    cases hrecords.symm.trans hd
    exact Ne.symm hne
  have holder := Files.lt_next_of_find hrecords
  have hsince := Files.lt_next_of_find hrules
  rw [Action.run_log] at hlog
  cases hlog
  exact ⟨⟨w.files.next, m, by omega, hm, by omega, hself, hrest⟩, hkeeps.log _⟩

/-- A record that a folder has taken is the last one that it stores. -/
theorem stores_of_append {r : Record} (h : s.Stores since w.files k)
    (happend : ExceptT.run (s.append r) w = (.ok (), w')) :
    s.Stores since w'.files ⟨k.rules, k.records ++ [r]⟩ ∧ w.Keeps since w' := by
  rw [append, Action.run_bind_ok (run_recordItems h)] at happend
  obtain ⟨n, m, hn, hm, hne, hrules, hrecords⟩ := h
  obtain ⟨hkeeps, hself, hothers⟩ := keeps_of_writeDocument happend hrecords hm
  have hdocument : Stock.recordsDocument ⟨k.rules, k.records ++ [r]⟩ =
      .array (k.records.map Record.toValue ++ [r.toValue]) := by
    rw [Stock.recordsDocument, List.map_append]
    rfl
  have hrest : w'.files.find s.rulesFile = .ok (.file n (.document (rulesDocument k.rules))) := by
    rw [hothers s.rulesFile, hrules]
    intro n' d hd
    cases hrules.symm.trans hd
    exact hne
  have holder := Files.lt_next_of_find hrules
  have hsince := Files.lt_next_of_find hrecords
  exact ⟨⟨n, w.files.next, hn, by omega, by omega, hrest, hdocument ▸ hself⟩, hkeeps⟩

end FolderStore

/-! ## Databases -/

namespace Tables

theorem addRule_eq_ok {t t' : Tables} {row : RuleRow} (h : t.addRule row = .ok t') :
    t' = { t with rules := t.rules ++ [row] } := by
  rw [addRule] at h
  split at h
  · cases h
  · split at h
    · cases h
    · split at h
      · cases h
      · cases h
        rfl

/-- Rows that are added without a refusal are all there, in their order. -/
theorem addRules_eq_ok {t t' : Tables} {rows : List RuleRow} (h : t.addRules rows = .ok t') :
    t' = { t with rules := t.rules ++ rows } := by
  induction rows generalizing t with
  | nil =>
    cases h
    rw [List.append_nil]
  | cons row rest ih =>
    obtain ⟨t₁, hadd, hrest⟩ := except_bind_eq_ok.1 h
    rw [ih hrest, addRule_eq_ok hadd, List.append_assoc]
    rfl

theorem replaceRules_eq_ok {t t' : Tables} {maxDepth : Option Nat} {rules : List Rule}
    (h : t.replaceRules maxDepth rules = .ok t') : t' = { t with rules := RuleRow.ofRules rules } := by
  rw [replaceRules] at h
  split at h
  · cases h
  · exact addRules_eq_ok h

end Tables

namespace DatabaseStore

/-- A database stores a stock in its tables, in memory or in a file that may be written and has a number
from a bound on. -/
def Stores (s : DatabaseStore) (since : Nat) (fs : Files) (k : Stock) : Prop :=
  match s.place with
  | .memory _ t => t = k.tables
  | .bare => False
  | .file l number writes =>
    writes = true ∧ since ≤ number ∧ fs.find l = .ok (.file number (.tables k.tables))

variable {s s' : DatabaseStore} {since : Nat} {w w' : World} {k : Stock}

theorem run_tables (h : s.Stores since w.files k) : ExceptT.run s.tables w = (.ok k.tables, w) := by
  obtain ⟨url, place, maxDepth⟩ := s
  cases place with
  | memory separate t =>
    cases h
    rfl
  | bare => exact h.elim
  | file l number writes =>
    obtain ⟨-, -, hfind⟩ := h
    rw [DatabaseStore.tables]
    simp only [Action.run_bind_ok (Action.run_get w), Files.contentOf?_of_find hfind]
    rfl

/-- Tables that a database has taken are what it stores. -/
theorem stores_of_setTables {k' : Stock} (h : s.Stores since w.files k)
    (hset : ExceptT.run (s.setTables k'.tables) w = (.ok s', w')) :
    s'.Stores since w'.files k' ∧ w.Keeps since w' := by
  rw [Stores] at h
  rcases run_setTables_eq_ok hset with ⟨separate, old, hp, rfl, hw⟩ | ⟨hp, -, -⟩ |
    ⟨l, number, writes, fs, hp, rfl, hwrite, rfl⟩
  · subst hw
    exact ⟨rfl, .refl since _⟩
  · rw [hp] at h
    exact h.elim
  · rw [hp] at h
    obtain ⟨hwrites, hsince, hfind⟩ := h
    obtain ⟨w', hrun, hkeeps, hself, -⟩ := Action.run_write hfind hsince (.tables k'.tables)
    cases hrun.symm.trans (Action.run_changeFiles_ok hwrite)
    refine ⟨?_, hkeeps⟩
    rw [Stores, hp]
    exact ⟨hwrites, hsince, hself⟩

/-- Rules that a database has taken are the rules that it stores. -/
theorem stores_of_saveRules {rules : List Rule} (h : s.Stores since w.files k)
    (hsave : ExceptT.run (s.saveRules rules) w = (.ok s', w')) :
    s'.Stores since w'.files ⟨rules, k.records⟩ ∧ w.Keeps since w' := by
  obtain ⟨t, t', w₁, htables, hreplace, hset, log, rfl⟩ := run_saveRules_eq_ok hsave
  cases (run_tables h).symm.trans htables
  have htables : t' = Stock.tables ⟨rules, k.records⟩ := Tables.replaceRules_eq_ok hreplace
  obtain ⟨hstores, hkeeps⟩ := stores_of_setTables h (htables ▸ hset)
  exact ⟨hstores, hkeeps.log log⟩

/-- A record that a database has taken is the last one that it stores. -/
theorem stores_of_append {r : Record} (h : s.Stores since w.files k)
    (happend : ExceptT.run (s.append r) w = (.ok s', w')) :
    s'.Stores since w'.files ⟨k.rules, k.records ++ [r]⟩ ∧ w.Keeps since w' := by
  obtain ⟨t, htables, hset⟩ := run_append_eq_ok happend
  cases (run_tables h).symm.trans htables
  have htables : withRecord k.tables r = Stock.tables ⟨k.rules, k.records ++ [r]⟩ := by
    rw [withRecord, Stock.tables, Stock.tables, List.map_append]
    rfl
  exact stores_of_setTables h (htables ▸ hset)

end DatabaseStore

/-! ## Stores -/

namespace Store

/-- A store stores a stock, in files with numbers from a bound on if it has files. -/
def Stores (since : Nat) (fs : Files) (k : Stock) : Store → Prop
  | memory rules records => rules = k.rules ∧ records = k.records
  | folder s => s.Stores since fs k
  | database s => s.Stores since fs k

variable {s s' : Store} {since : Nat} {w w' : World} {k : Stock}

theorem stores_of_saveRules {rules : List Rule} (h : s.Stores since w.files k)
    (hsave : ExceptT.run (s.saveRules rules) w = (.ok s', w')) :
    s'.Stores since w'.files ⟨rules, k.records⟩ ∧ w.Keeps since w' := by
  cases s with
  | memory rules' records =>
    obtain ⟨-, rfl⟩ := h
    cases hsave
    exact ⟨⟨rfl, rfl⟩, .refl since w⟩
  | folder s =>
    obtain ⟨_, _, hsave, hstore⟩ := Action.run_bind_eq_ok hsave
    cases hstore
    exact FolderStore.stores_of_saveRules h hsave
  | database s =>
    obtain ⟨_, _, hsave, hstore⟩ := Action.run_bind_eq_ok hsave
    cases hstore
    exact DatabaseStore.stores_of_saveRules h hsave

theorem stores_of_append {r : Record} (h : s.Stores since w.files k)
    (happend : ExceptT.run (s.append r) w = (.ok s', w')) :
    s'.Stores since w'.files ⟨k.rules, k.records ++ [r]⟩ ∧ w.Keeps since w' := by
  cases s with
  | memory rules records =>
    obtain ⟨rfl, rfl⟩ := h
    cases happend
    exact ⟨⟨rfl, rfl⟩, .refl since w⟩
  | folder s =>
    obtain ⟨_, _, happend, hstore⟩ := Action.run_bind_eq_ok happend
    cases hstore
    exact FolderStore.stores_of_append h happend
  | database s =>
    obtain ⟨_, _, happend, hstore⟩ := Action.run_bind_eq_ok happend
    cases hstore
    exact DatabaseStore.stores_of_append h happend

/-- Worlds that are alike store the same. -/
theorem Stores.congr {fs fs' : Files} (h : s.Stores since fs k) (hentries : fs'.entries = fs.entries) :
    s.Stores since fs' k := by
  cases s with
  | memory rules records => exact h
  | folder s =>
    obtain ⟨n, m, hn, hm, hne, hrules, hrecords⟩ := h
    refine ⟨n, m, hn, hm, hne, ?_, ?_⟩
    · rw [Files.find_congr hentries, hrules]
    · rw [Files.find_congr hentries, hrecords]
  | database s =>
    obtain ⟨url, place, maxDepth⟩ := s
    cases place with
    | file l number writes =>
      obtain ⟨hwrites, hsince, hfind⟩ := h
      exact ⟨hwrites, hsince, (Files.find_congr hentries l).trans hfind⟩
    | _ => exact h

end Store

end RuleLabels
