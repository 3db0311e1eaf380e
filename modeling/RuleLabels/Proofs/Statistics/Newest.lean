import Mathlib.Data.List.FinRange
import Mathlib.Tactic.Common
import RuleLabels.Proofs.Statistics

/-!
# The newest records of a summary

A summary lists the newest of the records that it is of.  Two records may be equal, so what is said of the
list is said of the places at which its records are stored: the places are ranked, each behind all that are
newer, and the summary keeps the first of them.

* `Snapshot.newestFirst_eq_map`: the records from the newest to the oldest are those at the ranked places;
* `Snapshot.mem_ranking` and `Snapshot.pairwise_ranking`: every place is ranked, the newer ones first;
* `Snapshot.recent_ofRecords`: the records that a summary lists, and those that it leaves out.
-/

namespace RuleLabels.Snapshot

variable (records : List Record)

/-- The record at one place goes before that at another one: it is newer, or of the same instant and stored
later. -/
def IsNewer (i j : Fin records.length) : Prop :=
  records[j].createdAt.instant < records[i].createdAt.instant ∨
    records[j].createdAt.instant = records[i].createdAt.instant ∧ j < i

/-! ## The ranking of places -/

/-- The record at one place is not older than that at another one. -/
def isNotOlder (i j : Fin records.length) : Bool :=
  records[j].createdAt.instant ≤ records[i].createdAt.instant

/-- The places of records, from the last one on. -/
def placesFromLast : List (Fin records.length) := (List.finRange records.length).reverse

/-- The places of records, from the newest to the oldest. -/
def ranking : List (Fin records.length) := (placesFromLast records).mergeSort (isNotOlder records)

/-- The records from the newest to the oldest are those at the ranked places. -/
theorem newestFirst_eq_map : newestFirst records = (ranking records).map fun i => records[i] := by
  have hreverse : records.reverse = (placesFromLast records).map fun i => records[i] := by
    rw [placesFromLast, List.map_reverse]
    exact congrArg List.reverse (List.map_getElem_finRange records).symm
  have hsort : ((ranking records).map fun i => (records[i].createdAt.instant, records[i])) =
      ((placesFromLast records).map fun i => (records[i].createdAt.instant, records[i])).mergeSort
        fun a b => b.1 ≤ a.1 :=
    List.map_mergeSort fun _ _ _ _ => rfl
  rw [newestFirst, hreverse, List.map_map]
  refine (congrArg (List.map Prod.snd) hsort.symm).trans ?_
  rw [List.map_map]
  rfl

theorem perm_ranking : (ranking records).Perm (List.finRange records.length) :=
  (List.mergeSort_perm _ _).trans (List.reverse_perm _)

theorem mem_ranking (i : Fin records.length) : i ∈ ranking records :=
  (perm_ranking records).mem_iff.2 (List.mem_finRange i)

theorem nodup_ranking : (ranking records).Nodup :=
  (perm_ranking records).nodup_iff.2 (List.nodup_finRange _)

theorem length_ranking : (ranking records).length = records.length := by
  rw [(perm_ranking records).length_eq, List.length_finRange]

/-- Places that are counted from the last one on go down as their numbers go up. -/
theorem le_of_mem_zipIdx {i j : Fin records.length} {k m : Nat} (hi : (i, k) ∈ (placesFromLast records).zipIdx)
    (hj : (j, m) ∈ (placesFromLast records).zipIdx) (hkm : k ≤ m) : j ≤ i := by
  have hplace : ∀ {i : Fin records.length} {k : Nat}, (i, k) ∈ (placesFromLast records).zipIdx →
      i.val + k + 1 = records.length := by
    intro i k h
    obtain ⟨-, hk, heq⟩ := List.mem_zipIdx h
    have hlength : (placesFromLast records).length = records.length := by
      rw [placesFromLast, List.length_reverse, List.length_finRange]
    have hvalue : i.val = records.length - 1 - k := by
      simp [heq, placesFromLast]
    omega
  have h₁ := hplace hi
  have h₂ := hplace hj
  exact Fin.le_def.2 (by omega)

/-- The place of a newer record is ranked before that of an older one, and of records of one instant the place
of the one that is stored later. -/
theorem pairwise_ranking : (ranking records).Pairwise (IsNewer records) := by
  have htrans : ∀ i j k, isNotOlder records i j = true → isNotOlder records j k = true →
      isNotOlder records i k = true := by
    intro i j k hij hjk
    rw [isNotOlder, decide_eq_true_eq] at *
    omega
  have htotal : ∀ i j, (isNotOlder records i j || isNotOlder records j i) = true := by
    intro i j
    rw [isNotOlder, isNotOlder, Bool.or_eq_true, decide_eq_true_eq, decide_eq_true_eq]
    omega
  -- sorting keeps the order of what it does not tell apart, which the numbers beside the places show
  have hsorted := List.pairwise_mergeSort (List.zipIdxLE_trans htrans) (List.zipIdxLE_total htotal)
    (placesFromLast records).zipIdx
  have hdistinct := nodup_ranking records
  rw [ranking, ← List.mergeSort_zipIdx] at hdistinct ⊢
  rw [List.nodup_iff_pairwise_ne, List.pairwise_map] at hdistinct
  rw [List.pairwise_map]
  refine (hsorted.and hdistinct).imp_of_mem ?_
  rintro ⟨i, k⟩ ⟨j, m⟩ hi hj ⟨hle, hne⟩
  have hlast : k ≤ m → j ≤ i :=
    le_of_mem_zipIdx records (List.mem_mergeSort.1 hi) (List.mem_mergeSort.1 hj)
  have hranked : records[j].createdAt.instant ≤ records[i].createdAt.instant ∧
      (records[j].createdAt.instant < records[i].createdAt.instant ∨ k ≤ m) := by
    simpa [List.zipIdxLE, isNotOlder] using hle
  rw [IsNewer]
  by_cases hsame : records[j].createdAt.instant = records[i].createdAt.instant
  · have hkm : k ≤ m := hranked.2.resolve_left (by omega)
    exact .inr ⟨hsame, lt_of_le_of_ne (hlast hkm) (Ne.symm hne)⟩
  · exact .inl (lt_of_le_of_ne hranked.1 hsame)

/-! ## Summaries -/

/-- **The newest records.**  A summary counts the selected records and lists some of them at different places, ten or
all if there are fewer, from the newest to the oldest and of those of one instant the one first that is stored last.
Every place that is left out goes behind all of them. -/
theorem recent_ofRecords (now : Timestamp) (c : Criteria) (records : List Record) :
    let selected := Record.select now c records
    let summary := ofRecords now c records
    summary.total = selected.length ∧
    ∃ places : List (Fin selected.length), summary.recent = places.map (fun i => selected[i]) ∧
      places.length = min 10 summary.total ∧ places.Nodup ∧ places.Pairwise (IsNewer selected) ∧
      ∀ i ∈ places, ∀ j, j ∉ places → IsNewer selected i j := by
  intro selected summary
  have hranked : ((ranking selected).take 10 ++ (ranking selected).drop 10).Pairwise (IsNewer selected) := by
    rw [List.take_append_drop]
    exact pairwise_ranking selected
  obtain ⟨hlisted, -, hleft⟩ := List.pairwise_append.1 hranked
  refine ⟨rfl, (ranking selected).take 10, ?_, ?_, (nodup_ranking selected).sublist (List.take_sublist _ _),
    hlisted, ?_⟩
  · show (newestFirst selected).take 10 = _
    rw [newestFirst_eq_map, List.map_take]
  · rw [List.length_take, length_ranking]
    rfl
  · intro i hi j hj
    refine hleft i hi j ?_
    have hmem := mem_ranking selected j
    rw [← List.take_append_drop 10 (ranking selected), List.mem_append] at hmem
    exact hmem.resolve_left hj

end RuleLabels.Snapshot
