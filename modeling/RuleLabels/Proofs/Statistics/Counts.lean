import Mathlib.Tactic.Common
import RuleLabels.Proofs.Statistics

/-!
# The labels of a summary

A summary lists the labels of the records that it is of, each once and in the order in which they are first
met, with the number of records that carry it.  The list is built one label at a time, so what one more label
does to the keys of a tally carries the result.

* `Tally.map_fst_ofRecords`: the labels of a tally;
* `Tally.ofRecords_eq`: a tally is its labels with their counts;
* `Snapshot.labels_ofRecords`: what a summary says of labels, and how the counts of two summaries add up.
-/

namespace RuleLabels

namespace Tally

/-! ## Keys -/

/-- One more of a label puts it at the end, unless it is listed. -/
theorem map_fst_bump (l : String) (t : Tally) :
    (bump l t).map Prod.fst = if l ∈ t.map Prod.fst then t.map Prod.fst else t.map Prod.fst ++ [l] := by
  induction t with
  | nil => simp [bump]
  | cons x rest ih =>
    obtain ⟨m, n⟩ := x
    rw [bump]
    by_cases hm : m = l
    · simp [hm]
    · rw [if_neg hm, List.map_cons, ih]
      by_cases hl : l ∈ rest.map Prod.fst
      · simp [hl]
      · simp [hl, Ne.symm hm]

/-- A tally that lists the labels met so far lists one more label in its place. -/
theorem map_fst_bump_of_eq {met : List String} {t : Tally} (h : t.map Prod.fst = met.eraseDups) (l : String) :
    (bump l t).map Prod.fst = (met ++ [l]).eraseDups := by
  rw [map_fst_bump, h, Text.eraseDups_concat]
  simp only [List.mem_eraseDups]

theorem map_fst_foldl_bump {met : List String} {t : Tally} (h : t.map Prod.fst = met.eraseDups)
    (labels : List String) :
    (labels.foldl (fun t l => bump l t) t).map Prod.fst = (met ++ labels).eraseDups := by
  induction labels generalizing met t with
  | nil => simpa using h
  | cons l rest ih =>
    have hstep := ih (map_fst_bump_of_eq h l)
    rwa [List.append_assoc, List.singleton_append] at hstep

theorem map_fst_add {met : List String} {t : Tally} (h : t.map Prod.fst = met.eraseDups) (r : Record) :
    (t.add r).map Prod.fst = (met ++ r.labels).eraseDups := by
  rw [add, map_fst_foldl_bump h, Text.eraseDups_append_eraseDups]

/-- The labels of a tally are those of the records, in the order in which they first appear. -/
theorem map_fst_ofRecords (records : List Record) :
    (ofRecords records).map Prod.fst = (records.flatMap Record.labels).eraseDups := by
  have hfold : ∀ (met : List String) (t : Tally), t.map Prod.fst = met.eraseDups →
      (records.foldl add t).map Prod.fst = (met ++ records.flatMap Record.labels).eraseDups := by
    induction records with
    | nil =>
      intro met t h
      simpa using h
    | cons r rest ih =>
      intro met t h
      have hstep := ih (met ++ r.labels) (t.add r) (map_fst_add h r)
      rwa [List.append_assoc] at hstep
  rw [ofRecords, hfold [] [] rfl, List.nil_append]

/-! ## Counts -/

/-- A tally without repeated labels is its labels with their counts. -/
theorem eq_map_countOf {t : Tally} (h : (t.map Prod.fst).Nodup) :
    t = (t.map Prod.fst).map fun l => (l, t.countOf l) := by
  induction t with
  | nil => rfl
  | cons x rest ih =>
    obtain ⟨m, n⟩ := x
    obtain ⟨hm, hrest⟩ := List.nodup_cons.1 h
    have hself : countOf m ((m, n) :: rest) = n := by simp [countOf]
    have hothers : ((rest.map Prod.fst).map fun l => (l, countOf l ((m, n) :: rest))) =
        (rest.map Prod.fst).map fun l => (l, countOf l rest) := by
      refine List.map_congr_left fun l hl => ?_
      have hne : l ≠ m := fun heq => hm (heq ▸ hl)
      simp [countOf, List.lookup_cons, beq_false_of_ne hne]
    rw [List.map_cons, List.map_cons, hself, hothers, ← ih hrest]

/-- How many records carry each label, in the order in which the labels first appear. -/
theorem ofRecords_eq (records : List Record) :
    ofRecords records = (records.flatMap Record.labels).eraseDups.map fun l =>
      (l, records.countP fun r => l ∈ r.labels) := by
  have hkeys := map_fst_ofRecords records
  have hnodup : ((ofRecords records).map Prod.fst).Nodup := hkeys ▸ Text.nodup_eraseDups _
  refine (eq_map_countOf hnodup).trans ?_
  rw [hkeys]
  exact List.map_congr_left fun l _ => by rw [countOf_ofRecords]

end Tally

/-! ## Summaries -/

/-- Without a bound on their time records are selected by their labels, whatever time it is. -/
theorem Record.select_unbounded (now : Timestamp) (label : Option String) (records : List Record) :
    Record.select now ⟨label, none, none⟩ records = records.filter (Criteria.carries ⟨label, none, none⟩) := by
  refine List.filter_congr fun r _ => ?_
  have hspans : Criteria.spans now ⟨label, none, none⟩ r = true := rfl
  rw [hspans, Bool.true_and]

/-- Without a bound on their time it makes no difference to the records that others follow them. -/
theorem Record.select_append (now now₁ now₂ : Timestamp) (label : Option String) (records more : List Record) :
    Record.select now ⟨label, none, none⟩ (records ++ more) =
      Record.select now₁ ⟨label, none, none⟩ records ++ Record.select now₂ ⟨label, none, none⟩ more := by
  rw [select_unbounded, select_unbounded, select_unbounded, List.filter_append]

namespace Snapshot

/-- The labels of some records, in the order in which they first appear. -/
def labelsOf (records : List Record) : List String := (records.flatMap Record.labels).eraseDups

theorem mem_labelsOf {records : List Record} {l : String} :
    l ∈ labelsOf records ↔ ∃ r ∈ records, l ∈ r.labels := by
  rw [labelsOf, List.mem_eraseDups, List.mem_flatMap]

/-- The shares of a summary: each label with its count, and the percentage that this is of all. -/
theorem shares_ofSelected (now : Timestamp) (selected : List Record) :
    (ofSelected now selected).shares = (labelsOf selected).map fun l =>
      ⟨l, selected.countP fun r => l ∈ r.labels,
        percentage (selected.countP fun r => l ∈ r.labels) selected.length⟩ := by
  rw [ofSelected, Tally.ofRecords_eq, List.map_map]
  rfl

/-- **What a summary says of labels.**  It lists each label of the selected records once, in the order in which
they first appear, with the number of selected records that carry it: at least one of them, and at most all.
Both of its written tables have just these labels in this order.  Where no bound on the time is given, the
counts for two lists of records that follow each other are the sums of the counts for each of them. -/
theorem labels_ofRecords (now : Timestamp) (c : Criteria) (records : List Record) :
    let selected := Record.select now c records
    let summary := ofRecords now c records
    let count := fun l => selected.countP fun r => l ∈ r.labels
    summary.total = selected.length ∧ (labelsOf selected).Nodup ∧
      (∀ l, l ∈ labelsOf selected ↔ ∃ r ∈ selected, l ∈ r.labels) ∧
      (∀ l, countOf l summary = count l) ∧ (∀ l ∈ labelsOf selected, 1 ≤ count l ∧ count l ≤ summary.total) ∧
      Fields.get? summary.fields "labelCounts" =
        some (.object ((labelsOf selected).map fun l => (l, .int (count l)))) ∧
      Fields.get? summary.fields "labelPercentages" =
        some (.object ((labelsOf selected).map fun l =>
          (l, .float (percentage (count l) summary.total)))) ∧
      ∀ (now₁ now₂ : Timestamp) (label : Option String) (more : List Record) (l : String),
        countOf l (ofRecords now ⟨label, none, none⟩ (records ++ more)) =
          countOf l (ofRecords now₁ ⟨label, none, none⟩ records) +
            countOf l (ofRecords now₂ ⟨label, none, none⟩ more) := by
  intro selected summary count
  have hshares : summary.shares = (labelsOf selected).map fun l =>
      ⟨l, count l, percentage (count l) summary.total⟩ := shares_ofSelected now selected
  refine ⟨rfl, Text.nodup_eraseDups _, fun _ => mem_labelsOf, fun l => countOf_ofSelected l now selected,
    ?_, ?_, ?_, ?_⟩
  · intro l hl
    obtain ⟨r, hr, hlr⟩ := mem_labelsOf.1 hl
    have hpos : 0 < count l := List.countP_pos_iff.2 ⟨r, hr, decide_eq_true hlr⟩
    exact ⟨hpos, List.countP_le_length⟩
  · show some (Value.object (summary.shares.map fun s => (s.label, .int s.count))) = _
    rw [hshares, List.map_map]
    rfl
  · show some (Value.object (summary.shares.map fun s => (s.label, .float s.percentage))) = _
    rw [hshares, List.map_map]
    rfl
  · intro now₁ now₂ label more l
    have hselect := Record.select_append now now₁ now₂ label records more
    rw [ofRecords, ofRecords, ofRecords, countOf_ofSelected, countOf_ofSelected, countOf_ofSelected, hselect,
      List.countP_append]

/-- A record with a label twice, and one that carries it behind another label. -/
def repeatedLabels : List Record :=
  [⟨"1", [], ["Green", "Green"], .epoch⟩, ⟨"2", [], ["Orange", "Green"], .epoch⟩]

theorem labels_ofRecords_repeated :
    "Orange" ∈ labelsOf repeatedLabels ∧
      Fields.get? (ofRecords .epoch .everything repeatedLabels).fields "labelCounts" =
        some (.object [("Green", .int 2), ("Orange", .int 1)]) ∧
      1 ≤ repeatedLabels.countP (fun r => "Orange" ∈ r.labels) ∧
      repeatedLabels.countP (fun r => "Orange" ∈ r.labels) ≤
        (ofRecords .epoch .everything repeatedLabels).total := by
  obtain ⟨-, -, hmem, -, hbounds, hcounts, -, -⟩ := labels_ofRecords .epoch .everything repeatedLabels
  have horange : "Orange" ∈ labelsOf repeatedLabels :=
    (hmem "Orange").2 ⟨_, List.mem_cons_of_mem _ List.mem_cons_self, List.mem_cons_self⟩
  have hselect : Record.select .epoch .everything repeatedLabels = repeatedLabels := rfl
  have hlabels : labelsOf repeatedLabels = ["Green", "Orange"] := by decide
  rw [hselect, hlabels] at hcounts
  exact ⟨horange, hcounts, hbounds "Orange" horange⟩

end Snapshot

end RuleLabels
