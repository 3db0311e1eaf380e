import Mathlib.Tactic.Common
import RuleLabels.Proofs.Share
import RuleLabels.Proofs.Statistics.Counts

/-!
# Summaries of the records with a label

Records are asked for by a span of time and by a label, and a summary counts the records with each label.  The two
ways to a number agree: what is selected with a label is what the summary of the same span counts for it.

* `Record.select_labelled`: asking for a label as well selects those that carry it;
* `Snapshot.find?_shares`: the share that a summary lists for a label;
* `Snapshot.total_ofRecords_labelled`: the total of a summary with a label, its share of that label, and the counts
  of two labels for each other.
-/

namespace RuleLabels

/-- The records that are asked for with a label are those that carry it of the ones asked for without. -/
theorem Record.select_labelled (now : Timestamp) (since till : Option Timestamp) (records : List Record)
    {label : String} (h : label ≠ "") :
    Record.select now ⟨some label, since, till⟩ records =
      (Record.select now ⟨none, since, till⟩ records).filter fun r => label ∈ r.labels := by
  have hempty : label.isEmpty = false := by
    simpa [String.isEmpty_iff] using h
  rw [Record.select, Record.select, List.filter_filter]
  refine List.filter_congr fun r _ => ?_
  have hspans : Criteria.spans now ⟨some label, since, till⟩ r = Criteria.spans now ⟨none, since, till⟩ r := rfl
  have hcarries : Criteria.carries ⟨some label, since, till⟩ r = decide (label ∈ r.labels) := by
    simp [Criteria.carries, hempty]
  have hany : Criteria.carries ⟨none, since, till⟩ r = true := rfl
  rw [hspans, hcarries, hany, Bool.and_true, Bool.and_comm]

/-- All of a total is a hundred per cent. -/
theorem percentage_self {total : Nat} (hpos : 0 < total) : percentage total total = .nearest false 100 1 := by
  rw [percentage, if_neg (by omega), shareHundredths_self hpos]
  decide +kernel

namespace Snapshot

/-- The percentage that a summary lists for a label. -/
def percentageOf? (label : String) (s : Snapshot) : Option Binary64 :=
  (s.shares.find? fun l => l.label = label).map LabelShare.percentage

/-- The share of a label that some of the records carry. -/
theorem find?_shares (now : Timestamp) {selected : List Record} {label : String}
    (h : ∃ r ∈ selected, label ∈ r.labels) :
    ((ofSelected now selected).shares.find? fun l => l.label = label) =
      some ⟨label, selected.countP fun r => label ∈ r.labels,
        percentage (selected.countP fun r => label ∈ r.labels) selected.length⟩ := by
  have hmem : label ∈ labelsOf selected := mem_labelsOf.2 h
  rw [shares_ofSelected, List.find?_map]
  have hfind : (labelsOf selected).find? (fun l => decide (l = label)) = some label := by
    cases hfound : (labelsOf selected).find? (fun l => decide (l = label)) with
    | none =>
      have hnone := List.find?_eq_none.1 hfound label hmem
      simp at hnone
    | some l =>
      have heq := List.find?_some hfound
      rw [decide_eq_true_eq] at heq
      rw [heq]
  exact congrArg (Option.map _) hfind

/-- **Asking for a label and counting it.**  For any span of time, the summary of the records with a label has as
its total what the summary of all records of the span counts for the label.  If there are any, all of them carry
the label, which is a hundred per cent; and of two labels each is counted alike among the records with the
other one. -/
theorem total_ofRecords_labelled (now : Timestamp) (since till : Option Timestamp) (records : List Record)
    {label : String} (hlabel : label ≠ "") :
    let unlabelled := ofRecords now ⟨none, since, till⟩ records
    let labelled := fun l => ofRecords now ⟨some l, since, till⟩ records
    (labelled label).total = countOf label unlabelled ∧
      (0 < (labelled label).total →
        countOf label (labelled label) = (labelled label).total ∧
          percentageOf? label (labelled label) = some (.nearest false 100 1)) ∧
      ∀ other, other ≠ "" → countOf other (labelled label) = countOf label (labelled other) := by
  intro unlabelled labelled
  have hselect := fun {l : String} => @Record.select_labelled now since till records l
  obtain ⟨spanned, hspanned⟩ : ∃ spanned, spanned = Record.select now ⟨none, since, till⟩ records := ⟨_, rfl⟩
  rw [← hspanned] at hselect
  have htotal : (labelled label).total = (spanned.filter fun r => label ∈ r.labels).length := by
    show (Record.select now ⟨some label, since, till⟩ records).length = _
    rw [hselect hlabel]
  have hcount : ∀ {l : String}, l ≠ "" → ∀ k, countOf k (labelled l) =
      (spanned.filter fun r => l ∈ r.labels).countP fun r => k ∈ r.labels := by
    intro l hl k
    show countOf k (ofSelected now (Record.select now ⟨some l, since, till⟩ records)) = _
    rw [countOf_ofSelected, hselect hl]
  have hall : (spanned.filter fun r => label ∈ r.labels).countP (fun r => label ∈ r.labels) =
      (spanned.filter fun r => label ∈ r.labels).length := by
    rw [List.countP_eq_length]
    intro r hr
    exact (List.mem_filter.1 hr).2
  refine ⟨?_, ?_, ?_⟩
  · show _ = countOf label (ofSelected now (Record.select now ⟨none, since, till⟩ records))
    rw [countOf_ofSelected, htotal, ← hspanned, List.countP_eq_length_filter]
  · intro hpos
    refine ⟨?_, ?_⟩
    · rw [hcount hlabel, hall, htotal]
    · rw [htotal] at hpos
      obtain ⟨r, hr⟩ := List.exists_mem_of_length_pos hpos
      have hshare := find?_shares now ⟨r, hr, of_decide_eq_true (List.mem_filter.1 hr).2⟩
      show ((ofSelected now (Record.select now ⟨some label, since, till⟩ records)).shares.find?
        fun l => l.label = label).map LabelShare.percentage = _
      rw [hselect hlabel, hshare, hall, Option.map_some, percentage_self hpos]
  · intro other hother
    rw [hcount hlabel, hcount hother, List.countP_filter, List.countP_filter]
    simp only [Bool.and_comm]

theorem total_ofRecords_labelled_green :
    let summary := ofRecords .epoch ⟨some "Green", some .epoch, none⟩ repeatedLabels
    ("Green" ≠ "" ∧ 0 < summary.total ∧ "Orange" ≠ "") ∧ summary.total = 2 ∧
      percentageOf? "Green" summary = some (.nearest false 100 1) ∧
      countOf "Orange" summary =
        countOf "Green" (ofRecords .epoch ⟨some "Orange", some .epoch, none⟩ repeatedLabels) := by
  intro summary
  have hgreen : "Green" ≠ "" := by decide
  have horange : "Orange" ≠ "" := by decide
  obtain ⟨htotal, hshare, hother⟩ :=
    total_ofRecords_labelled .epoch (some .epoch) none repeatedLabels hgreen
  have htwo : summary.total = 2 := rfl
  have hpos : 0 < summary.total := by omega
  exact ⟨⟨hgreen, hpos, horange⟩, htwo, (hshare hpos).2, hother "Orange" horange⟩

end Snapshot

end RuleLabels
