import Mathlib.Data.List.Basic
import Mathlib.Tactic.Common

/-!
# Lists of different texts

The texts of a list, each once and in the order in which they first appear.

* `nodup_eraseDups`: no text appears twice;
* `eraseDups_concat`: what one more text at the end adds.
-/

namespace RuleLabels.Text

theorem nodup_eraseDups : ∀ texts : List String, texts.eraseDups.Nodup
  | [] => .nil
  | l :: rest => by
    rw [List.eraseDups_cons, List.nodup_cons]
    refine ⟨fun h => ?_, nodup_eraseDups _⟩
    have hmem := List.mem_eraseDups.1 h
    simp at hmem
termination_by texts => texts.length
decreasing_by exact Nat.lt_succ_of_le (List.length_filter_le _ _)

/-- What passes a test first appears in the same order before and after the rest is dropped. -/
theorem filter_eraseDups (p : String → Bool) : ∀ texts : List String,
    texts.eraseDups.filter p = (texts.filter p).eraseDups
  | [] => rfl
  | l :: rest => by
    have ih := filter_eraseDups p (rest.filter fun l' => !l' == l)
    rw [List.eraseDups_cons, List.filter_cons, List.filter_cons, ih, List.filter_filter]
    by_cases hl : p l = true
    · simp only [hl, if_true, List.eraseDups_cons, List.filter_filter, Bool.and_comm]
    · -- a text that fails the test need not be dropped before the test
      have hsame : (rest.filter fun l' => p l' && !l' == l) = rest.filter p := by
        refine List.filter_congr fun l' _ => ?_
        by_cases h : l' = l
        · simp [h, hl]
        · simp [h]
      rw [if_neg hl, if_neg hl, hsame]
termination_by texts => texts.length
decreasing_by exact Nat.lt_succ_of_le (List.length_filter_le _ _)

theorem eraseDups_eq_self {texts : List String} (h : texts.Nodup) : texts.eraseDups = texts := by
  induction texts with
  | nil => rfl
  | cons l rest ih =>
    obtain ⟨hl, hrest⟩ := List.nodup_cons.1 h
    have hfilter : (rest.filter fun l' => !l' == l) = rest := by
      refine List.filter_eq_self.2 fun l' hl' => ?_
      have hne : l' ≠ l := fun heq => hl (heq ▸ hl')
      simp [hne]
    rw [List.eraseDups_cons, hfilter, ih hrest]

/-- Behind other texts it makes no difference whether repeated ones are dropped first. -/
theorem eraseDups_append_eraseDups (before texts : List String) :
    (before ++ texts.eraseDups).eraseDups = (before ++ texts).eraseDups := by
  rw [List.eraseDups_append, List.eraseDups_append, List.removeAll, List.removeAll, filter_eraseDups,
    eraseDups_eq_self (nodup_eraseDups _)]

theorem eraseDups_concat (before : List String) (l : String) :
    (before ++ [l]).eraseDups = if l ∈ before then before.eraseDups else before.eraseDups ++ [l] := by
  rw [List.eraseDups_append]
  by_cases h : l ∈ before
  · simp [List.removeAll, h]
  · simp [List.removeAll, h, List.eraseDups_cons]

end RuleLabels.Text
