import Mathlib.Tactic.Common
import RuleLabels.Proofs.Store.Taking

/-!
# What stores accept

A store that can be written takes rules if it accepts each of them, and it goes on to be one that can be
written.  Whether it accepts a rule depends on this rule alone: on its document in a folder, and on its columns
in a database.  So it accepts a rule that it gives back, and a rule that is switched.

* `Store.takes_iff`: which rules a store takes;
* `Store.isWritable_of_saveRules`: it may then take others;
* `Store.Suits.accepts_keep` and `Store.accepts_switch`: what is accepted with a rule.
-/

namespace RuleLabels

open Rule

/-! ## Documents -/

namespace Json

theorem itemRefusal?_eq_none_iff {p : Purpose} {depth : Nat} {items : List Value} :
    itemRefusal? p depth items = none ↔ ∀ v ∈ items, refusalAt? p depth (gap depth) v = none := by
  induction items with
  | nil => simp [itemRefusal?]
  | cons v rest ih =>
    rw [itemRefusal?, List.forall_mem_cons, ← ih]
    cases refusalAt? p depth (gap depth) v <;> simp

theorem fieldRefusal?_eq_none_iff {p : Purpose} {depth : Nat} {fields : List (String × Value)} :
    fieldRefusal? p depth fields = none ↔
      ∀ f ∈ fields, stringRefusal? p 0 f.1 = none ∧ refusalAt? p depth 0 f.2 = none := by
  induction fields with
  | nil => simp [fieldRefusal?]
  | cons f rest ih =>
    obtain ⟨k, v⟩ := f
    rw [fieldRefusal?, List.forall_mem_cons, ← ih]
    cases stringRefusal? p 0 k <;> cases refusalAt? p depth 0 v <;> simp

/-- Whether an array can be written depends on its items, each by itself. -/
theorem refusal?_array_eq_none_iff {p : Purpose} {items : List Value} :
    refusal? p (.array items) = none ↔
      p.isFull 0 = false ∧ ∀ v ∈ items, refusalAt? p 1 (gap 1) v = none := by
  rw [refusal?, refusalAt?, ← itemRefusal?_eq_none_iff]
  cases p.isFull 0 <;> simp

theorem refusalAt?_object_eq_none_iff {p : Purpose} {depth before : Nat} {fields : List (String × Value)} :
    refusalAt? p depth before (.object fields) = none ↔
      p.isFull depth = false ∧
        ∀ f ∈ fields, stringRefusal? p 0 f.1 = none ∧ refusalAt? p (depth + 1) 0 f.2 = none := by
  rw [refusalAt?, ← fieldRefusal?_eq_none_iff]
  cases p.isFull depth <;> simp

/-! ## Columns -/

/-- No text of a column is refused. -/
theorem stringRefusal?_column (maxDepth : Option Nat) (before : Nat) (s : String) :
    stringRefusal? (.column maxDepth) before s = none := rfl

mutual

/-- A column that takes a document takes it with its halves joined, and the other way round. -/
theorem refusalAt?_joinedHalves (maxDepth : Option Nat) : ∀ (depth before : Nat) (v : Value),
    refusalAt? (.column maxDepth) depth before (joinedHalves v) = refusalAt? (.column maxDepth) depth before v
  | depth, before, .text s => by
    rw [joinedHalves, refusalAt?, refusalAt?, stringRefusal?_column, stringRefusal?_column]
  | depth, before, .array items => by
    rw [joinedHalves, refusalAt?, refusalAt?, itemRefusal?_joinedItems maxDepth (depth + 1) items]
  | depth, before, .object fields => by
    rw [joinedHalves, refusalAt?, refusalAt?, fieldRefusal?_joinedFields maxDepth (depth + 1) fields]
  | _, _, .null | _, _, .bool _ | _, _, .int _ | _, _, .float _ | _, _, .moment _ | _, _, .date _
  | _, _, .bytes _ | _, _, .tuple _ | _, _, .set _ | _, _, .mapping _ | _, _, .looped _ _ => rfl

theorem itemRefusal?_joinedItems (maxDepth : Option Nat) : ∀ (depth : Nat) (items : List Value),
    itemRefusal? (.column maxDepth) depth (joinedItems items) = itemRefusal? (.column maxDepth) depth items
  | _, [] => rfl
  | depth, v :: rest => by
    rw [joinedItems, itemRefusal?, itemRefusal?, refusalAt?_joinedHalves maxDepth depth _ v,
      itemRefusal?_joinedItems maxDepth depth rest]

theorem fieldRefusal?_joinedFields (maxDepth : Option Nat) : ∀ (depth : Nat) (fields : List (String × Value)),
    fieldRefusal? (.column maxDepth) depth (joinedFields fields) =
      fieldRefusal? (.column maxDepth) depth fields
  | _, [] => rfl
  | depth, (k, v) :: rest => by
    rw [joinedFields, fieldRefusal?, fieldRefusal?, stringRefusal?_column, stringRefusal?_column,
      refusalAt?_joinedHalves maxDepth depth _ v, fieldRefusal?_joinedFields maxDepth depth rest]

end

end Json

/-! ## Rows -/

/-- Rows that tables take are refused for nothing that they hold. -/
theorem Tables.forall_of_addRules {t t' : Tables} {rows : List RuleRow} (h : t.addRules rows = .ok t') :
    ∀ row ∈ rows, row.encodeError? = none ∧ row.fits = true := by
  induction rows generalizing t with
  | nil => exact fun _ hrow => nomatch hrow
  | cons row rest ih =>
    obtain ⟨t₁, hadd, hrest⟩ := except_bind_eq_ok.1 h
    refine List.forall_mem_cons.2 ⟨?_, ih hrest⟩
    unfold addRule at hadd
    split at hadd
    · cases hadd
    · rename_i hbytes
      split at hadd
      · cases hadd
      · rename_i hfits
        exact ⟨hbytes, by simpa using hfits⟩

theorem RuleRow.exists_mem_ofRulesFrom {rules : List Rule} {r : Rule} (hr : r ∈ rules) (position : Nat) :
    ∃ i, ofRule i r ∈ ofRulesFrom position rules := by
  induction rules generalizing position with
  | nil => exact nomatch hr
  | cons s rest ih =>
    rcases List.mem_cons.1 hr with rfl | hr
    · exact ⟨position, List.mem_cons_self⟩
    · obtain ⟨i, hi⟩ := ih hr (position + 1)
      exact ⟨i, List.mem_cons_of_mem _ hi⟩

/-- Of rules that tables take, none is refused. -/
theorem Tables.forall_of_replaceRules {t t' : Tables} {maxDepth : Option Nat} {rules : List Rule}
    (h : t.replaceRules maxDepth rules = .ok t') :
    ∀ r ∈ rules, Json.refusal? (.column maxDepth) r.conditions.toValue = none ∧
      (RuleRow.ofRule 0 r).encodeError? = none ∧ (RuleRow.ofRule 0 r).fits = true := by
  intro r hr
  unfold replaceRules at h
  split at h
  · cases h
  · rename_i hconditions
    obtain ⟨i, hi⟩ := RuleRow.exists_mem_ofRulesFrom hr 0
    have hrow : (RuleRow.ofRule i r).encodeError? = none ∧ (RuleRow.ofRule i r).fits = true :=
      forall_of_addRules h _ hi
    exact ⟨List.findSome?_eq_none_iff.1 hconditions r hr, hrow⟩

/-! ## Stores that can be written -/

namespace Store

/-- A store accepts a rule: a folder can write its document among others, and a database its conditions and its
texts with bytes and a priority of 64 bits. -/
def Accepts (s : Store) (r : Rule) : Prop :=
  match s with
  | memory .. => True
  | folder s => Json.refusalAt? (.file s.maxDepth) 1 (Json.gap 1) r.toValue = none
  | database s =>
    Json.refusal? (.column s.maxDepth) r.conditions.toValue = none ∧
      (RuleRow.ofRule 0 r).encodeError? = none ∧ (RuleRow.ofRule 0 r).fits = true

/-- A store can be written: no folder is in the place of its file of rules, which may hold a document, or it is a
database with tables that may be written. -/
def IsWritable (s : Store) (fs : Files) : Prop :=
  match s with
  | memory .. => True
  | folder s => (Json.Purpose.file s.maxDepth).isFull 0 = false ∧
      ∃ key, fs.key s.rulesFile = .ok key ∧ fs.entryAt? key ≠ some .folder
  | database s => s.writes = true ∧ ∃ t, s.Has t fs

end Store

namespace FolderStore

variable {s : FolderStore} {w w' : World} {rules : List Rule}

theorem refusal?_rulesDocument_eq_none_iff :
    Json.refusal? (.file s.maxDepth) (rulesDocument rules) = none ↔
      (Json.Purpose.file s.maxDepth).isFull 0 = false ∧ ∀ r ∈ rules, (Store.folder s).Accepts r := by
  rw [rulesDocument, Json.refusal?_array_eq_none_iff, List.forall_mem_map]
  rfl

/-- What a folder asks of a rule: it can write its texts, its conditions and its priority.  The names of the fields
and the times are always written. -/
theorem accepts_iff {r : Rule} : (Store.folder s).Accepts r ↔
    (Json.Purpose.file s.maxDepth).isFull 1 = false ∧
      (∀ text ∈ [r.id, r.name, r.label], Json.stringRefusal? (.file s.maxDepth) 0 text = none) ∧
      Json.refusalAt? (.file s.maxDepth) 2 0 r.conditions.toValue = none ∧
      r.priority.natAbs < Value.digitBound := by
  have hnames : ∀ name ∈ ["id", "name", "conditions", "label", "priority", "enabled", "createdAt", "updatedAt"],
      Json.stringRefusal? (.file s.maxDepth) 0 name = none := by
    intro name hname
    have hwhole : (["id", "name", "conditions", "label", "priority", "enabled", "createdAt", "updatedAt"].all
        Text.isWhole) = true := by decide
    exact Value.stringRefusal?_of_isWhole (List.all_eq_true.1 hwhole name hname) _ 0
  have htime (t : Timestamp) : Json.stringRefusal? (.file s.maxDepth) 0 t.text = none :=
    Value.stringRefusal?_of_isWhole (isWhole_timestamp t) _ 0
  have htext (text : String) :
      Json.refusalAt? (.file s.maxDepth) 2 0 (.text text) = Json.stringRefusal? (.file s.maxDepth) 0 text := by
    rw [Json.refusalAt?]
  have hbool (b : Bool) : Json.refusalAt? (.file s.maxDepth) 2 0 (.bool b) = none := by rw [Json.refusalAt?]
  have hint (i : Int) : Json.refusalAt? (.file s.maxDepth) 2 0 (.int i) = none ↔ i.natAbs < Value.digitBound := by
    rw [Json.refusalAt?]
    by_cases hi : i.natAbs < Value.digitBound <;> simp [hi]
  simp only [List.forall_mem_cons, List.not_mem_nil, false_implies, implies_true, and_true] at hnames ⊢
  unfold Store.Accepts Rule.toValue
  simp only [Json.refusalAt?_object_eq_none_iff, List.forall_mem_cons, List.not_mem_nil, false_implies,
    implies_true, and_true, hnames, htext, hbool, hint, htime, true_and]
  constructor
  · rintro ⟨hfull, hid, hname, hconditions, hlabel, hpriority⟩
    exact ⟨hfull, ⟨hid, hname, hlabel⟩, hconditions, hpriority⟩
  · rintro ⟨hfull, ⟨hid, hname, hlabel⟩, hconditions, hpriority⟩
    exact ⟨hfull, hid, hname, hconditions, hlabel, hpriority⟩

theorem takes_iff : (∃ w', ExceptT.run (s.saveRules rules) w = (.ok (), w')) ↔
    (Store.folder s).IsWritable w.files ∧ ∀ r ∈ rules, (Store.folder s).Accepts r := by
  constructor
  · rintro ⟨w', h⟩
    obtain ⟨_, w₁, hwrite, -⟩ := Action.run_bind_eq_ok h
    obtain ⟨hfull, haccepts⟩ := refusal?_rulesDocument_eq_none_iff.1 (refusal?_of_run_writeDocument hwrite)
    obtain ⟨key, fs, -, hkey, hne, -⟩ := run_writeDocument_eq_ok hwrite
    exact ⟨⟨hfull, key, hkey, hne⟩, haccepts⟩
  · rintro ⟨⟨hfull, key, hkey, hne⟩, haccepts⟩
    have hrefusal := refusal?_rulesDocument_eq_none_iff.2 ⟨hfull, haccepts⟩
    obtain ⟨fs, hwrite, -⟩ := run_writeDocument_ok hrefusal hkey hne
    exact ⟨_, (Action.run_bind_ok hwrite).trans (Action.run_log _ _ _ _)⟩

theorem isWritable_of_saveRules (h : ExceptT.run (s.saveRules rules) w = (.ok (), w')) :
    (Store.folder s).IsWritable w'.files := by
  obtain ⟨⟨hfull, -⟩, -⟩ := takes_iff.1 ⟨w', h⟩
  obtain ⟨_, w₁, hwrite, hlog⟩ := Action.run_bind_eq_ok h
  rw [Action.run_log] at hlog
  cases hlog
  obtain ⟨key, fs, rfl, hkey, hne, hputs⟩ := run_writeDocument_eq_ok hwrite
  obtain ⟨key', hkey', hentry⟩ :=
    Files.find_eq_ok_iff.1 (hputs.find ((Files.Stays.of_puts hputs hne).key hkey))
  exact ⟨hfull, key', hkey', by simp [hentry]⟩

end FolderStore

namespace DatabaseStore

variable {s s' : DatabaseStore} {w w' : World} {rules : List Rule}

/-- A database that takes rules may be written. -/
theorem writes_of_saveRules (h : ExceptT.run (s.saveRules rules) w = (.ok s', w')) : s.writes = true := by
  obtain ⟨t, hhas⟩ := has_of_saveRules h
  obtain ⟨s₁, w₁, htransact, -⟩ := Action.run_bind_eq_ok h
  rw [transact, Action.run_bind_ok hhas.run_tables] at htransact
  obtain ⟨_, w₂, hwritable, -⟩ := Action.run_bind_eq_ok htransact
  rw [hhas.run_checkWritable] at hwritable
  cases hwrites : s.writes with
  | true => rfl
  | false =>
    rw [hwrites] at hwritable
    cases hwritable

/-- Other tables change nothing about how a database is written. -/
theorem writes_of_setTables {t : Tables} (h : ExceptT.run (s.setTables t) w = (.ok s', w')) :
    s'.writes = s.writes ∧ s'.maxDepth = s.maxDepth := by
  rcases run_setTables_eq_ok h with ⟨separate, old, hplace, rfl, -⟩ | ⟨-, rfl, -⟩ |
    ⟨_, _, _, _, -, rfl, -⟩
  · refine ⟨?_, rfl⟩
    unfold writes
    rw [hplace]
  · exact ⟨rfl, rfl⟩
  · exact ⟨rfl, rfl⟩

theorem takes_iff (hids : (rules.map Rule.id).Nodup) :
    (∃ s' w', ExceptT.run (s.saveRules rules) w = (.ok s', w')) ↔
      (Store.database s).IsWritable w.files ∧ ∀ r ∈ rules, (Store.database s).Accepts r := by
  constructor
  · rintro ⟨s', w', h⟩
    obtain ⟨t, t', w₁, -, hreplace, -⟩ := run_saveRules_eq_ok h
    exact ⟨⟨writes_of_saveRules h, has_of_saveRules h⟩, Tables.forall_of_replaceRules hreplace⟩
  · rintro ⟨⟨hwrites, t, hhas⟩, haccepts⟩
    have hreplace := Tables.replaceRules_of_forall (fun r hr => (haccepts r hr).1)
      (fun r hr => (haccepts r hr).2) hids t
    have hwritable : ExceptT.run s.checkWritable w = (.ok (), w) := by
      rw [hhas.run_checkWritable, hwrites]
      rfl
    obtain ⟨s', w', hset, -⟩ := hhas.run_setTables { t with rules := RuleRow.ofRules rules }
    have htransact : ExceptT.run (s.transact (Tables.replaceRules s.maxDepth rules)) w = (.ok s', w') := by
      rw [transact, Action.run_bind_ok hhas.run_tables, Action.run_bind_ok hwritable, hreplace]
      exact hset
    exact ⟨s', _, (Action.run_bind_ok htransact).trans (Action.run_bind_ok (Action.run_log _ _ _ w'))⟩

end DatabaseStore

namespace Store

variable {s s' : Store} {w w' : World} {rules : List Rule}

/-- **Which rules a store takes**: any that it accepts, if it can be written. -/
theorem takes_iff (hids : (rules.map Rule.id).Nodup) :
    (∃ s' w', ExceptT.run (s.saveRules rules) w = (.ok s', w')) ↔
      s.IsWritable w.files ∧ ∀ r ∈ rules, s.Accepts r := by
  cases s with
  | memory rules' records => exact ⟨fun _ => ⟨trivial, fun _ _ => trivial⟩, fun _ => ⟨_, _, rfl⟩⟩
  | folder s =>
    rw [← FolderStore.takes_iff]
    constructor
    · rintro ⟨s', w', h⟩
      obtain ⟨_, w₁, hsave, -⟩ := Action.run_bind_eq_ok h
      exact ⟨w₁, hsave⟩
    · rintro ⟨w', h⟩
      exact ⟨folder s, w', Action.run_bind_ok h⟩
  | database s =>
    rw [← DatabaseStore.takes_iff hids]
    constructor
    · rintro ⟨s', w', h⟩
      obtain ⟨s₁, w₁, hsave, -⟩ := Action.run_bind_eq_ok h
      exact ⟨s₁, w₁, hsave⟩
    · rintro ⟨s', w', h⟩
      exact ⟨database s', w', Action.run_bind_ok h⟩

/-- A store that has taken rules accepts and keeps what it did before, and can be written for as long as no file
changes. -/
theorem isWritable_of_saveRules (h : ExceptT.run (s.saveRules rules) w = (.ok s', w')) :
    s'.IsWritable w'.files ∧ s'.Accepts = s.Accepts ∧ s'.keep = s.keep := by
  cases s with
  | memory rules' records =>
    cases h
    exact ⟨trivial, rfl, rfl⟩
  | folder s =>
    obtain ⟨_, w₁, hsave, hs⟩ := Action.run_bind_eq_ok h
    cases hs
    exact ⟨FolderStore.isWritable_of_saveRules hsave, rfl, rfl⟩
  | database s =>
    obtain ⟨s₁, w₁, hsave, hs⟩ := Action.run_bind_eq_ok h
    cases hs
    have hwrites := DatabaseStore.writes_of_saveRules hsave
    obtain ⟨t, hhas⟩ := DatabaseStore.has_of_saveRules hsave
    obtain ⟨t₁, t', w₂, htables, -, hset, log, rfl⟩ := DatabaseStore.run_saveRules_eq_ok hsave
    obtain ⟨hsame, hdepth⟩ := DatabaseStore.writes_of_setTables hset
    have hhas' : s₁.Has t' w₂.files := hhas.setTables hset
    refine ⟨⟨hsame.trans hwrites, t', hhas'⟩, ?_, rfl⟩
    funext r
    simp only [Accepts, hdepth]

/-! ## Rules that are accepted with others -/

/-- A store accepts a rule that suits it just if it accepts the rule as it keeps it. -/
theorem Suits.accepts_keep (h : s.Suits rules) {r : Rule} (hr : r ∈ rules) :
    s.Accepts (s.keep r) ↔ s.Accepts r := by
  cases s with
  | memory rules' records => exact Iff.rfl
  | folder s => exact Iff.rfl
  | database s =>
    have hgroup : r.HasGroup := h r hr
    have hconditions : Json.refusal? (.column s.maxDepth) r.joined.conditions.toValue =
        Json.refusal? (.column s.maxDepth) r.conditions.toValue := by
      unfold Json.refusal? Rule.joined
      rw [← Tree.joinedHalves_toValue hgroup.1, Json.refusalAt?_joinedHalves]
    show (Json.refusal? _ r.joined.conditions.toValue = none ∧ _) ↔ _
    rw [hconditions]
    exact Iff.rfl

/-- A store that accepts a rule accepts it with its switch on either side and with any time of its change. -/
theorem accepts_switch {r : Rule} (h : s.Accepts r) (enabled : Bool) (now : Timestamp) :
    s.Accepts ((Change.switch enabled).apply now r) := by
  cases s with
  | memory rules' records => trivial
  | folder s =>
    obtain ⟨hfull, htexts, hconditions, hpriority⟩ := FolderStore.accepts_iff.1 h
    exact FolderStore.accepts_iff.2 ⟨hfull, htexts, hconditions, hpriority⟩
  | database s => exact h

end Store

end RuleLabels
