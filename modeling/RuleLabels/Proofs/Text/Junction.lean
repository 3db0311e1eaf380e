import Mathlib.Data.List.Basic
import Mathlib.Tactic.Common
import RuleLabels.Fault
import RuleLabels.Text.Case

/-!
# Junctions in any letter case

A junction is named by a text whose upper case is `AND` or `OR`.  Upper case follows the full tables of
letters, but no letter beyond ASCII has one of the letters of these two words as its counterpart, so
`junction_ofOperator?_upper` may speak of the letters `a` to `z` alone.
-/

namespace RuleLabels.Text

/-- The letters of `AND` and `OR`. -/
def junctionLetters : List Char := ['A', 'N', 'D', 'O', 'R']

/-- A letter beyond ASCII is not turned into a letter of the two words by a run of the table. -/
theorem upperRuns_avoid : upperRuns.all fun r => junctionLetters.all fun c =>
    decide ((c.toNat : Int) - r.shift < max 0x80 r.first ∨ (r.last : Int) < c.toNat - r.shift) := by
  decide +kernel

/-- Each letter that becomes several ones gives one that is in neither word. -/
theorem upperExpansions_avoid : upperExpansions.all fun e =>
    e.2.any fun n => !junctionLetters.contains (Char.ofNat n) := by
  decide +kernel

theorem toNat_of_mem_junctionLetters {c : Char} (hc : c ∈ junctionLetters) :
    c.toNat < 0x80 ∧ 0 < c.toNat := by
  have hall : junctionLetters.all fun d => decide (d.toNat < 0x80 ∧ 0 < d.toNat) := by decide
  exact of_decide_eq_true (List.all_eq_true.1 hall c hc)

theorem applyRuns_upperRuns_ne {n : Nat} {c : Char} (hn : 0x80 ≤ n) (hc : c ∈ junctionLetters) :
    applyRuns upperRuns n ≠ c.toNat := by
  have := toNat_of_mem_junctionLetters hc
  rw [applyRuns]
  cases hr : upperRuns.findSome? fun r => r.image? n with
  | none => simp; omega
  | some m =>
    obtain ⟨r, hmem, happ⟩ := List.exists_of_findSome?_eq_some hr
    have havoid := List.all_eq_true.1 (List.all_eq_true.1 upperRuns_avoid r hmem) c hc
    rw [decide_eq_true_eq] at havoid
    rw [CaseRun.image?] at happ
    split at happ
    · rename_i hin
      cases happ
      simp only [Option.getD_some]
      omega
    · exact absurd happ (by simp)

theorem toNat_ofNat_of_mem {n : Nat} (h : Char.ofNat n ∈ junctionLetters) :
    (Char.ofNat n).toNat = n := by
  by_cases hv : n.isValidChar
  · have hn : Char.ofNat n = Char.ofNatAux n hv := dif_pos hv
    rw [hn]
    exact UInt32.toNat_ofNatLT
  · have hn : Char.ofNat n = '\x00' := dif_neg hv
    rw [hn] at h
    exact absurd h (by decide)

/-- The upper case of a letter beyond ASCII has a letter that is in neither word. -/
theorem exists_mem_upperLetters {c : Char} (hc : ¬ c.toNat < 0x80) :
    ∃ d ∈ upperLetters c, d ∉ junctionLetters := by
  rw [upperLetters, if_neg hc]
  cases he : upperExpansions.lookup c.toNat with
  | some letters =>
    obtain ⟨l₁, l₂, hl, -⟩ := List.lookup_eq_some_iff.1 he
    have hmem : (c.toNat, letters) ∈ upperExpansions := by rw [hl]; simp
    obtain ⟨n, hn, hd⟩ := List.any_eq_true.1 (List.all_eq_true.1 upperExpansions_avoid _ hmem)
    exact ⟨Char.ofNat n, List.mem_map.2 ⟨n, hn, rfl⟩, by simpa using hd⟩
  | none =>
    refine ⟨_, List.mem_singleton.2 rfl, fun hmem => ?_⟩
    exact applyRuns_upperRuns_ne (Nat.le_of_not_lt hc) hmem (toNat_ofNat_of_mem hmem).symm

/-- A text of ASCII letters has its upper case letter by letter. -/
theorem toList_upper_of_ascii {s : String} (h : ∀ c ∈ s.toList, c.toNat < 0x80) :
    (upper s).toList = s.toList.map Char.toUpper := by
  rw [upper, String.toList_ofList, ← List.flatMap_singleton' (s.toList.map Char.toUpper),
    List.flatMap_map]
  exact List.flatMap_congr fun c hc => by rw [upperLetters, if_pos (h c hc)]

/-- The upper case of a text is a word of the given letters just where its ASCII letters make it so. -/
theorem upper_eq_iff {s word : String} (hw : ∀ c ∈ word.toList, c ∈ junctionLetters) :
    upper s = word ↔ s.toList.map Char.toUpper = word.toList := by
  by_cases h : ∀ c ∈ s.toList, c.toNat < 0x80
  · rw [← toList_upper_of_ascii h, String.toList_inj]
  · obtain ⟨c, hc, hbig⟩ : ∃ c ∈ s.toList, ¬ c.toNat < 0x80 := by simpa using h
    constructor
    · rintro rfl
      obtain ⟨d, hd, hdw⟩ := exists_mem_upperLetters hbig
      refine absurd (hw d ?_) hdw
      rw [upper, String.toList_ofList]
      exact List.mem_flatMap.2 ⟨c, hc, hd⟩
    · intro he
      have hsame : c.toUpper = c := dif_neg fun hl => hbig (Nat.lt_of_le_of_lt hl.2 (by decide))
      have hmem : c ∈ junctionLetters := hw c (he ▸ hsame ▸ List.mem_map_of_mem hc)
      exact absurd (toNat_of_mem_junctionLetters hmem).1 hbig

/-- A text names a junction in some letter case just where its letters, in capitals, are those of the
name. -/
theorem ofOperator?_upper_isSome_iff {s operator : String} :
    (upper s = operator ∧ (Junction.ofOperator? operator).isSome = true) ↔
      operator ∈ Junction.operators.map Prod.fst ∧ s.toList.map Char.toUpper = operator.toList := by
  have hknown : (Junction.ofOperator? operator).isSome = true ↔
      operator ∈ Junction.operators.map Prod.fst := by
    rw [Junction.ofOperator?, List.lookup_isSome_iff]
    simp
  rw [hknown, and_comm]
  refine and_congr_right fun hmem => upper_eq_iff fun c hc => ?_
  have hwords : (Junction.operators.map Prod.fst).all fun w =>
      w.toList.all junctionLetters.contains := by decide
  exact List.contains_iff_mem.1 (List.all_eq_true.1 (List.all_eq_true.1 hwords operator hmem) c hc)

end RuleLabels.Text
