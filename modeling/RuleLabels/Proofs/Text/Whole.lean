import Mathlib.Data.List.Basic
import Mathlib.Tactic.Common
import RuleLabels.Json.Write
import RuleLabels.Proofs.Text.Digits

/-!
# Texts without halves

A text that holds no half of a character has bytes, and nothing in it can be joined.  Whatever is written
of it holds no halves either.
-/

namespace RuleLabels.Text

/-- A text without halves of characters, and without the private characters that stand for halves. -/
def isWhole (s : String) : Bool := s.toList.all (!isHalf ·)

theorem encodeError?_of_isWhole {s : String} (h : isWhole s = true) : encodeError? s = none := by
  have hdrop : s.toList.dropWhile (!isHalf ·) = [] := by
    rw [← List.append_nil s.toList, List.dropWhile_append_of_pos (List.all_eq_true.1 h)]
    rfl
  simp only [encodeError?, hdrop, List.takeWhile_nil, List.head?_nil, Option.map_none]

/-- What has bytes has no halves. -/
theorem isWhole_of_encodeError? {s : String} (h : encodeError? s = none) : isWhole s = true := by
  rw [encodeError?, Option.map_eq_none_iff, List.head?_eq_none_iff] at h
  rw [isWhole]
  generalize s.toList = chars at h
  induction chars with
  | nil => rfl
  | cons c rest ih =>
    cases hc : isHalf c with
    | true =>
      rw [List.dropWhile_cons_of_neg (by simp [hc]), List.takeWhile_cons_of_pos hc] at h
      cases h
    | false =>
      rw [List.dropWhile_cons_of_pos (by simp [hc])] at h
      rw [List.all_cons, hc, ih h]
      rfl

theorem joinedHalves_of_isWhole {s : String} (h : isWhole s = true) : joinedHalves s = s := by
  have hany : s.toList.any isHalf = false := by
    rw [List.any_eq_false]
    intro c hc
    simpa using List.all_eq_true.1 h c hc
  rw [joinedHalves, hany]
  rfl

theorem not_isHalf_of_ascii {c : Char} (h : c.toNat < 0x80) : isHalf c = false := by
  have hlow : ¬ firstHalf ≤ c.toNat := by
    rw [firstHalf]
    omega
  rw [isHalf, halfCode?, decide_eq_false hlow]
  rfl

theorem isWhole_of_ascii {s : String} (h : ∀ c ∈ s.toList, c.toNat < 0x80) : isWhole s = true := by
  rw [isWhole, List.all_eq_true]
  intro c hc
  rw [not_isHalf_of_ascii (h c hc)]
  rfl

theorem isWhole_append {s t : String} (hs : isWhole s = true) (ht : isWhole t = true) :
    isWhole (s ++ t) = true := by
  rw [isWhole, String.toList_append, List.all_append, Bool.and_eq_true]
  exact ⟨hs, ht⟩

/-! ## Written texts -/

theorem toNat_digitChar_lt : ∀ n : Nat, n.digitChar.toNat < 0x80
  | 0 | 1 | 2 | 3 | 4 | 5 | 6 | 7 | 8 | 9 | 10 | 11 | 12 | 13 | 14 | 15 => by decide
  | n + 16 => by
    have hstar : (n + 16).digitChar = '*' := by simp [Nat.digitChar]
    rw [hstar]
    decide

theorem toNat_lt_of_mem_toDigits {base : Nat} (hb : 1 < base) (n : Nat) :
    ∀ c ∈ Nat.toDigits base n, c.toNat < 0x80 := by
  induction n using Nat.strongRecOn with
  | ind n ih =>
    intro c hc
    rw [Nat.toDigits_eq_if hb] at hc
    split at hc
    · rw [List.mem_singleton.1 hc]
      exact toNat_digitChar_lt n
    · rename_i hn
      rcases List.mem_append.1 hc with hc | hc
      · exact ih (n / base) (Nat.div_lt_self (by omega) hb) c hc
      · rw [List.mem_singleton.1 hc]
        exact toNat_digitChar_lt _

theorem toNat_lt_of_mem_padded {base : Nat} (hb : 1 < base) {width n : Nat} {c : Char}
    (h : c ∈ padded base width n) : c.toNat < 0x80 := by
  rw [padded, List.mem_append] at h
  rcases h with h | h
  · rw [List.eq_of_mem_replicate h]
    decide
  · exact toNat_lt_of_mem_toDigits hb n c h

/-- The characters that stand for one character in a string of JSON: itself, or ASCII. -/
theorem mem_writtenChar {c d : Char} (hd : d ∈ Json.writtenChar c) : d = c ∨ d.toNat < 0x80 := by
  have hpair : ∀ {e : Char}, e.toNat < 0x80 → d ∈ ['\\', e] → d = c ∨ d.toNat < 0x80 := by
    intro e he hmem
    rcases List.mem_cons.1 hmem with rfl | hmem
    · exact .inr (by decide)
    · rw [List.mem_singleton.1 hmem]
      exact .inr he
  rw [Json.writtenChar] at hd
  repeat' split at hd
  · exact hpair (by decide) hd
  · exact hpair (by decide) hd
  · exact hpair (by decide) hd
  · exact hpair (by decide) hd
  · exact hpair (by decide) hd
  · exact hpair (by decide) hd
  · exact hpair (by decide) hd
  · rcases List.mem_cons.1 hd with rfl | hd
    · exact .inr (by decide)
    · rcases List.mem_cons.1 hd with rfl | hd
      · exact .inr (by decide)
      · exact .inr (toNat_lt_of_mem_padded (by decide) hd)
  · exact .inl (List.mem_singleton.1 hd)

theorem isWhole_writtenString {s : String} (h : isWhole s = true) :
    isWhole (Json.writtenString s) = true := by
  have hinner : isWhole (String.ofList (s.toList.flatMap Json.writtenChar)) = true := by
    rw [isWhole, String.toList_ofList, List.all_eq_true]
    intro d hd
    obtain ⟨c, hc, hcd⟩ := List.mem_flatMap.1 hd
    have hwhole : isHalf c = false := by simpa using List.all_eq_true.1 h c hc
    rcases mem_writtenChar hcd with rfl | hascii
    · rw [hwhole]
      rfl
    · rw [not_isHalf_of_ascii hascii]
      rfl
  have hquote : isWhole "\"" = true := by decide
  exact isWhole_append (isWhole_append hquote hinner) hquote

end RuleLabels.Text
