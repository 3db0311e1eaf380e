import Mathlib.Data.List.Basic
import Mathlib.Tactic.Common
import RuleLabels.Proofs.Json.Plain
import RuleLabels.Proofs.Rule.Edit
import RuleLabels.Proofs.Tree.Joining
import RuleLabels.Store.Database
import RuleLabels.Store.Folder

/-!
# What stores keep

Valid rules, and all records, are read back from the documents of a folder as they are, and from the rows of
a database with the halves of characters joined.  A plain rule has whole texts and a priority of 64 bits, and
a plain record has whole texts and a payload of JSON: no store refuses them, and none changes them.

* `Rule.isJson_toValue` and `Record.isJson_toValue`: plain documents can be written;
* `Rule.map_joined_of_isPlain` and `Record.map_joined_of_isPlain`: columns keep them as they are;
* `RuleRow.toRules_sorted` and `RecordRow.toRecords_ofRecord`: what rows are read back as;
* `Tables.replaceRules_of_forall`: rules with different identifiers are taken if none of them is refused;
* `Tables.replaceRules_of_isPlain`: plain rules with different identifiers are not refused.
-/

namespace RuleLabels

open Text Value

/-! ## Plain rules and records -/

/-- A priority that a column of 64 bits holds. -/
def IsWide (priority : Int) : Prop := -2 ^ 63 ≤ priority ∧ priority < 2 ^ 63

/-- The texts of a rule are whole, and its priority has no more than 64 bits. -/
structure Rule.IsPlain (r : Rule) : Prop where
  id : isWhole r.id = true
  name : isWhole r.name = true
  label : isWhole r.label = true
  conditions : r.conditions.toValue.isJson = true
  priority : IsWide r.priority

/-- The texts of a record are whole, and its payload is of JSON. -/
structure Record.IsPlain (r : Record) : Prop where
  id : isWhole r.id = true
  payload : fieldsAreJson r.payload = true
  labels : ∀ label ∈ r.labels, isWhole label = true

/-! ## Documents -/

theorem pow_le_digitBound : 10 ^ 20 ≤ digitBound := by
  unfold digitBound
  exact Nat.pow_le_pow_right (by decide) (by decide)

theorem natAbs_lt_digitBound {i : Int} (h : IsWide i) : i.natAbs < digitBound := by
  refine Nat.lt_of_lt_of_le ?_ pow_le_digitBound
  obtain ⟨hlow, hhigh⟩ := h
  omega

theorem isWhole_timestamp (t : Timestamp) : isWhole t.text = true :=
  isWhole_of_ascii fun _ hc => Iso.isAscii_of_mem_timestamp hc

/-- The document of a plain rule can be written. -/
theorem Rule.isJson_toValue {r : Rule} (h : r.IsPlain) : r.toValue.isJson = true := by
  simp only [Rule.toValue, isJson, fieldsAreJson, h.id, h.name, h.label, h.conditions,
    isWhole_timestamp, decide_eq_true (natAbs_lt_digitBound h.priority), Bool.and_true]
  decide

theorem itemsAreJson_texts {texts : List String} (h : ∀ s ∈ texts, isWhole s = true) :
    itemsAreJson (texts.map .text) = true := by
  rw [itemsAreJson_iff]
  intro v hv
  obtain ⟨s, hs, rfl⟩ := List.mem_map.1 hv
  exact h s hs

/-- The document of a plain record can be written. -/
theorem Record.isJson_toValue {r : Record} (h : r.IsPlain) : r.toValue.isJson = true := by
  simp only [Record.toValue, ofTexts, itemsAreJson_texts h.labels, isJson, fieldsAreJson, h.id, h.payload,
    isWhole_timestamp, Bool.and_true]
  decide

theorem refusal?_rulesDocument {rules : List Rule} (h : ∀ r ∈ rules, r.IsPlain) :
    Json.refusal? (.file none) (FolderStore.rulesDocument rules) = none := by
  refine refusal?_of_isJson rfl ?_
  rw [FolderStore.rulesDocument, isJson, itemsAreJson_iff]
  intro v hv
  obtain ⟨r, hr, rfl⟩ := List.mem_map.1 hv
  exact Rule.isJson_toValue (h r hr)

theorem refusal?_records {records : List Record} (h : ∀ r ∈ records, r.IsPlain) :
    Json.refusal? (.file none) (.array (records.map Record.toValue)) = none := by
  refine refusal?_of_isJson rfl ?_
  rw [isJson, itemsAreJson_iff]
  intro v hv
  obtain ⟨r, hr, rfl⟩ := List.mem_map.1 hv
  exact Record.isJson_toValue (h r hr)

/-- Rules with different identifiers are not refused for any of them. -/
theorem Rule.checkDistinct_of_nodup {rules : List Rule} (path : Path) (i : Nat) (seen : List String)
    (h : (rules.map Rule.id).Nodup) (hseen : ∀ r ∈ rules, r.id ∉ seen) :
    Rule.checkDistinct path i seen rules = .ok () := by
  induction rules generalizing i seen with
  | nil => rfl
  | cons r rest ih =>
    obtain ⟨hr, hrest⟩ := List.nodup_cons.1 h
    have hnot : seen.contains r.id = false := by
      rw [Bool.eq_false_iff, Ne, List.contains_iff_mem]
      exact hseen r List.mem_cons_self
    rw [checkDistinct, hnot]
    refine ih (i + 1) (r.id :: seen) hrest ?_
    intro s hs
    rw [List.mem_cons, not_or]
    refine ⟨?_, hseen s (List.mem_cons_of_mem r hs)⟩
    intro he
    exact hr (he ▸ List.mem_map_of_mem hs)

/-- The document of valid rules with different identifiers is read back. -/
theorem Rule.readAll_rulesDocument {rules : List Rule} (h : ∀ r ∈ rules, r.IsValid)
    (hid : (rules.map Rule.id).Nodup) (now : Timestamp) :
    Rule.readAll now (FolderStore.rulesDocument rules) .document = .ok rules := by
  have hread := Rule.readEach_map_toValue h now .document 0
  have hdistinct := Rule.checkDistinct_of_nodup .document 0 [] hid fun _ _ hm => nomatch hm
  simp only [readAll, FolderStore.rulesDocument, fields?, Option.bind_none, items?, except_bind_eq_ok]
  exact ⟨rules, hread, (), hdistinct, rfl⟩

/-! ## Columns -/

/-- A rule as columns keep it: the halves of characters in its conditions are joined. -/
def Rule.joined (r : Rule) : Rule := { r with conditions := r.conditions.joined }

/-- A record as columns keep it: the halves of characters in its payload and labels are joined. -/
def Record.joined (r : Record) : Record :=
  { r with payload := Json.joinedFields r.payload, labels := r.labels.map joinedHalves }

/-- Columns keep orderly rules orderly. -/
theorem Rule.AreOrderly.joined {rules : List Rule} (h : AreOrderly rules) :
    AreOrderly (rules.map Rule.joined) := by
  constructor
  · intro s hs
    obtain ⟨r, hr, rfl⟩ := List.mem_map.1 hs
    have hv := h.valid r hr
    exact ⟨hv.id, hv.name, hv.label, Tree.isWellFormed_joined hv.wellFormed,
      (Tree.isGroup_joined r.conditions).trans hv.isGroup⟩
  · rw [List.map_map]
    exact h.distinct

/-- Columns keep plain rules as they are. -/
theorem Rule.map_joined_of_isPlain {rules : List Rule} (hv : ∀ r ∈ rules, r.IsValid)
    (hp : ∀ r ∈ rules, r.IsPlain) : rules.map Rule.joined = rules := by
  refine (List.map_congr_left fun r hr => ?_).trans (List.map_id rules)
  have hjoined := Tree.joined_eq_self (hv r hr).wellFormed (hv r hr).isGroup
    (joinedHalves_of_isJson (hp r hr).conditions)
  rw [Rule.joined, hjoined]
  rfl

/-- Columns keep plain records as they are. -/
theorem Record.map_joined_of_isPlain {records : List Record} (h : ∀ r ∈ records, r.IsPlain) :
    records.map Record.joined = records := by
  refine (List.map_congr_left fun r hr => ?_).trans (List.map_id records)
  have hlabels : r.labels.map joinedHalves = r.labels := by
    rw [List.map_congr_left fun s hs => joinedHalves_of_isWhole ((h r hr).labels s hs)]
    exact List.map_id _
  rw [Record.joined, joinedFields_of_isJson (h r hr).payload, hlabels]
  rfl

/-! ## Rows of rules -/

/-- The conditions of a rule are a well-formed group, which is all that a row asks for when it is read. -/
def Rule.HasGroup (r : Rule) : Prop := r.conditions.isWellFormed = true ∧ r.conditions.isGroup = true

theorem Rule.IsValid.hasGroup {r : Rule} (h : r.IsValid) : r.HasGroup := ⟨h.wellFormed, h.isGroup⟩

namespace RuleRow

theorem toRule_ofRule {r : Rule} (h : r.HasGroup) (position : Nat) :
    (ofRule position r).toRule = .ok r.joined := by
  obtain ⟨hwellFormed, hgroup⟩ := h
  simp only [toRule, ofRule, except_bind_eq_ok, Tree.joinedHalves_toValue hwellFormed]
  have hread := Tree.readConditions_toValue (Tree.isWellFormed_joined hwellFormed)
    ((Tree.isGroup_joined r.conditions).trans hgroup)
  exact ⟨r.conditions.joined, hread _, r.createdAt, readTimestamp_text _ _, r.updatedAt,
    readTimestamp_text _ _, rfl⟩

/-- The rule of a row has a group for its conditions. -/
theorem hasGroup_of_toRule {row : RuleRow} {r : Rule} (h : row.toRule = .ok r) : r.HasGroup := by
  simp only [toRule, except_bind_eq_ok] at h
  obtain ⟨conditions, hread, _, -, _, -, hr⟩ := h
  cases hr
  exact Tree.isWellFormed_of_readConditions hread

theorem hasGroup_of_toRules {rows : List RuleRow} {rules : List Rule} (h : toRules rows = .ok rules) :
    ∀ r ∈ rules, r.HasGroup := by
  induction rows generalizing rules with
  | nil =>
    cases h
    exact fun _ hr => nomatch hr
  | cons row rest ih =>
    rw [toRules] at h
    split at h
    · exact nomatch h
    · rename_i r hrow
      obtain ⟨others, hothers, rfl⟩ := except_map_eq_ok.1 h
      exact List.forall_mem_cons.2 ⟨hasGroup_of_toRule hrow, ih hothers⟩

theorem toRules_ofRulesFrom {rules : List Rule} (h : ∀ r ∈ rules, r.HasGroup) (position : Nat) :
    toRules (ofRulesFrom position rules) = .ok (rules.map Rule.joined) := by
  induction rules generalizing position with
  | nil => rfl
  | cons r rest ih =>
    have hrest := ih (fun s hs => h s (List.mem_cons_of_mem r hs)) (position + 1)
    rw [ofRulesFrom, toRules, toRule_ofRule (h r List.mem_cons_self)]
    simp only [hrest]
    rfl

/-- What rows take over from rules, whatever their positions are. -/
theorem map_ofRulesFrom {α : Type} {f : RuleRow → α} {g : Rule → α}
    (h : ∀ position r, f (ofRule position r) = g r) (position : Nat) (rules : List Rule) :
    (ofRulesFrom position rules).map f = rules.map g := by
  induction rules generalizing position with
  | nil => rfl
  | cons r rest ih => rw [ofRulesFrom, List.map_cons, List.map_cons, h, ih]

theorem le_position_of_mem {rules : List Rule} {position : Nat} {row : RuleRow}
    (h : row ∈ ofRulesFrom position rules) : position ≤ row.position := by
  induction rules generalizing position with
  | nil => exact nomatch h
  | cons r rest ih =>
    rw [ofRulesFrom] at h
    rcases List.mem_cons.1 h with rfl | h
    · exact Nat.le_refl _
    · have := ih h
      omega

/-- Rows stand in the order of their positions. -/
theorem pairwise_ofRulesFrom (position : Nat) (rules : List Rule) :
    (ofRulesFrom position rules).Pairwise fun row other => isBefore row other = true := by
  induction rules generalizing position with
  | nil => exact .nil
  | cons r rest ih =>
    refine .cons ?_ (ih (position + 1))
    intro row hrow
    have hlt : position < row.position := le_position_of_mem hrow
    rw [isBefore, ofRule, decide_eq_true hlt, Bool.true_or]

/-- The rows of rules with groups for their conditions are read back in their order. -/
theorem toRules_sorted {rules : List Rule} (h : ∀ r ∈ rules, r.HasGroup) :
    toRules ((ofRules rules).mergeSort isBefore) = .ok (rules.map Rule.joined) := by
  rw [ofRules, List.mergeSort_of_pairwise (pairwise_ofRulesFrom 0 rules)]
  exact toRules_ofRulesFrom h 0

/-- The row of a plain rule is not refused for what it holds. -/
theorem accepts_ofRule {r : Rule} (h : r.IsPlain) (position : Nat) :
    (ofRule position r).encodeError? = none ∧ (ofRule position r).fits = true := by
  constructor
  · simp only [encodeError?, ofRule, List.findSome?_cons, encodeError?_of_isWhole h.id,
      encodeError?_of_isWhole h.name, encodeError?_of_isWhole h.label, List.findSome?_nil]
  · obtain ⟨hlow, hhigh⟩ := h.priority
    rw [fits, ofRule, Bool.and_eq_true, decide_eq_true_eq, decide_eq_true_eq]
    exact ⟨hlow, hhigh⟩

end RuleRow

namespace Tables

/-- Rows of rules with different identifiers, which no row has so far, are all added if none of them is refused
for what it holds. -/
theorem addRules_ofRulesFrom {rules : List Rule}
    (hrows : ∀ r ∈ rules, (RuleRow.ofRule 0 r).encodeError? = none ∧ (RuleRow.ofRule 0 r).fits = true)
    (hid : (rules.map Rule.id).Nodup) (position : Nat) {t : Tables}
    (hnew : ∀ r ∈ rules, ∀ row ∈ t.rules, row.id ≠ r.id) :
    t.addRules (RuleRow.ofRulesFrom position rules) =
      .ok { t with rules := t.rules ++ RuleRow.ofRulesFrom position rules } := by
  induction rules generalizing position t with
  | nil => rw [RuleRow.ofRulesFrom, addRules, List.append_nil]
  | cons r rest ih =>
    obtain ⟨hr, hrest⟩ := List.nodup_cons.1 hid
    have hbytes : (RuleRow.ofRule position r).encodeError? = none := (hrows r List.mem_cons_self).1
    have hfits : (RuleRow.ofRule position r).fits = true := (hrows r List.mem_cons_self).2
    have hfree : (t.rules.any fun row => row.id = (RuleRow.ofRule position r).id) = false := by
      rw [List.any_eq_false]
      intro row hrow
      rw [decide_eq_true_eq]
      exact hnew r List.mem_cons_self row hrow
    have hadd : t.addRule (RuleRow.ofRule position r) =
        .ok { t with rules := t.rules ++ [RuleRow.ofRule position r] } := by
      rw [addRule, hbytes, hfits, hfree]
      rfl
    rw [RuleRow.ofRulesFrom, addRules, hadd]
    refine (ih (fun s hs => hrows s (List.mem_cons_of_mem r hs)) hrest (position + 1) ?_).trans ?_
    · intro s hs row hrow
      rcases List.mem_append.1 hrow with hrow | hrow
      · exact hnew s (List.mem_cons_of_mem r hs) row hrow
      · rw [List.mem_singleton.1 hrow]
        intro heq
        have hsame : r.id = s.id := heq
        exact hr (hsame ▸ List.mem_map_of_mem hs)
    · rw [List.append_assoc]
      rfl

/-- Rules with different identifiers take the place of others if none of them is refused. -/
theorem replaceRules_of_forall {maxDepth : Option Nat} {rules : List Rule}
    (hconditions : ∀ r ∈ rules, Json.refusal? (.column maxDepth) r.conditions.toValue = none)
    (hrows : ∀ r ∈ rules, (RuleRow.ofRule 0 r).encodeError? = none ∧ (RuleRow.ofRule 0 r).fits = true)
    (hid : (rules.map Rule.id).Nodup) (t : Tables) :
    t.replaceRules maxDepth rules = .ok { t with rules := RuleRow.ofRules rules } := by
  rw [replaceRules, List.findSome?_eq_none_iff.2 hconditions]
  exact addRules_ofRulesFrom hrows hid 0 fun _ _ _ hrow => absurd hrow List.not_mem_nil

/-- Plain rules with different identifiers take the place of others. -/
theorem replaceRules_of_isPlain {rules : List Rule} (hp : ∀ r ∈ rules, r.IsPlain)
    (hid : (rules.map Rule.id).Nodup) (t : Tables) :
    t.replaceRules none rules = .ok { t with rules := RuleRow.ofRules rules } := by
  refine replaceRules_of_forall ?_ ?_ hid t
  · exact fun r hr => refusal?_of_isJson rfl (hp r hr).conditions
  · exact fun r hr => RuleRow.accepts_ofRule (hp r hr) 0

end Tables

/-! ## Rows of records -/

namespace RecordRow

theorem toRecord_ofRecord (r : Record) : (ofRecord r).toRecord = .ok r.joined := by
  simp only [toRecord, ofRecord, readTimestamp_text]
  rfl

/-- The rows of records are read back in their order. -/
theorem toRecords_ofRecord (records : List Record) :
    toRecords (records.map ofRecord) = .ok (records.map Record.joined) := by
  induction records with
  | nil => rfl
  | cons r rest ih =>
    rw [List.map_cons, toRecords, toRecord_ofRecord]
    simp only [ih]
    rfl

end RecordRow

end RuleLabels
