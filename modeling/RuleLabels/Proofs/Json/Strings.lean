import Mathlib.Tactic.Common
import RuleLabels.Json.Read
import RuleLabels.Proofs.Text.Joining
import RuleLabels.Proofs.Text.Whole

/-!
# Spelled strings

The characters of a string have many spellings: as they are, by an escape of one letter, by the number of a
code point, or by the two numbers of the halves of a character.  Each spelling is read as the characters that
it spells, up to the quote behind it.

A first half and a second half that follow each other are one character.  What a spelling spells is joined that
far already, so that joining changes nothing in it.
-/

namespace RuleLabels.Json

open Text

/-! ## Spellings -/

/-- Four hexadecimal digits spell a number. -/
def IsHex4 (digits : List Char) (n : Nat) : Prop :=
  digits.length = 4 ∧ ∀ c rest, hex4? (digits ++ c :: rest) = some n

/-- A text begins with the escape of a second half. -/
def BeginsLowHalf (s : List Char) : Prop :=
  ∃ digits n rest, IsHex4 digits n ∧ isLowHalf n = true ∧ s = '\\' :: 'u' :: (digits ++ rest)

/-- A text spells characters, as they stand between the quotes of a string.  Only escapes spell halves, and a
first half that stands alone has no second half behind it. -/
inductive SpellsChars : List Char → List Char → Prop
  | nil : SpellsChars [] []
  | plain {c : Char} {s cs : List Char} (hquote : c ≠ '"') (hescape : c ≠ '\\') (hcontrol : 0x20 ≤ c.toNat)
    (hwhole : isHalf c = false) (h : SpellsChars s cs) : SpellsChars (c :: s) (c :: cs)
  | letter {e c : Char} {s cs : List Char} (he : escape? e = some c) (h : SpellsChars s cs) :
    SpellsChars ('\\' :: e :: s) (c :: cs)
  | number {digits s cs : List Char} {n : Nat} (hn : IsHex4 digits n)
    (hlone : isHighHalf n = true → ¬ BeginsLowHalf s) (h : SpellsChars s cs) :
    SpellsChars ('\\' :: 'u' :: (digits ++ s)) (character n :: cs)
  | halves {digits digits' s cs : List Char} {m n : Nat} (hm : IsHex4 digits m)
    (hn : IsHex4 digits' n) (hhigh : isHighHalf m = true) (hlow : isLowHalf n = true)
    (hwhole : isHalf (joined m n) = false) (h : SpellsChars s cs) :
    SpellsChars ('\\' :: 'u' :: (digits ++ '\\' :: 'u' :: (digits' ++ s))) (joined m n :: cs)

/-! ## Escapes -/

theorem IsHex4.drop {digits : List Char} {n : Nat} (h : IsHex4 digits n) (rest : List Char) :
    (digits ++ rest).drop 4 = rest := List.drop_left' h.1

/-- What is spelled behind the escape of a first half is nothing that the reader takes for a second half, or
it is one. -/
theorem SpellsChars.low {s cs : List Char} (h : SpellsChars s cs) {low rest : List Char}
    (hs : s ++ '"' :: rest = '\\' :: 'u' :: low) :
    ∃ digits n after, IsHex4 digits n ∧ low = digits ++ after ∧ after ≠ [] ∧
      (isLowHalf n = true → BeginsLowHalf s) := by
  cases h with
  | nil => cases hs
  | plain _ hescape _ _ _ => exact absurd (List.cons.inj hs).1 hescape
  | letter he _ =>
    obtain ⟨rfl, -⟩ := List.cons.inj (List.cons.inj hs).2
    exact nomatch he
  | @number digits s' cs' n hn _ _ =>
    simp only [List.cons_append, List.append_assoc, List.cons.injEq, true_and] at hs
    exact ⟨digits, n, s' ++ '"' :: rest, hn, hs.symm, by simp, fun hlow => ⟨digits, n, s', hn, hlow, rfl⟩⟩
  | @halves digits digits' s' cs' m n hm _ _ _ _ _ =>
    simp only [List.cons_append, List.append_assoc, List.cons.injEq, true_and] at hs
    exact ⟨digits, m, _, hm, hs.symm, by simp, fun hlow => ⟨digits, m, _, hm, hlow, rfl⟩⟩

/-- The escape of a code point, if no second half follows that of a first half. -/
theorem unicodeEscape_number {digits s cs : List Char} {n : Nat} (hn : IsHex4 digits n)
    (hlone : isHighHalf n = true → ¬ BeginsLowHalf s) (h : SpellsChars s cs) (position : Nat)
    (rest : List Char) :
    unicodeEscape position (digits ++ (s ++ '"' :: rest)) = .ok (character n, 4) := by
  obtain ⟨c, tail, hcons⟩ : ∃ c tail, s ++ '"' :: rest = c :: tail := by
    cases s with
    | nil => exact ⟨_, _, rfl⟩
    | cons c s' => exact ⟨c, _, rfl⟩
  rw [unicodeEscape, hn.drop, hcons, hn.2]
  dsimp only
  split
  · rename_i hhigh
    split
    · rename_i low hlow
      obtain ⟨digits', m, after, hm, rfl, hafter, hbegins⟩ := h.low (hcons.trans hlow)
      rw [hm.drop, List.isEmpty_eq_false_iff.2 hafter]
      obtain ⟨c', tail', rfl⟩ := List.exists_cons_of_ne_nil hafter
      rw [hm.2]
      dsimp only
      rw [if_neg (by decide), if_neg fun hlowHalf => hlone hhigh (hbegins hlowHalf)]
    · rfl
  · rfl

/-- The escapes of two halves. -/
theorem unicodeEscape_halves {digits digits' : List Char} {m n : Nat} (hm : IsHex4 digits m)
    (hn : IsHex4 digits' n) (hhigh : isHighHalf m = true) (hlow : isLowHalf n = true) (position : Nat)
    (after : List Char) (hafter : after ≠ []) :
    unicodeEscape position (digits ++ '\\' :: 'u' :: (digits' ++ after)) = .ok (joined m n, 10) := by
  obtain ⟨c, tail, rfl⟩ := List.exists_cons_of_ne_nil hafter
  rw [unicodeEscape, hm.drop, hm.2]
  dsimp only
  rw [if_pos hhigh]
  simp only [hn.drop, hn.2, hlow]
  rfl

/-! ## Reading -/

section

variable (start position : Nat) (done rest : List Char)

theorem string_quote :
    string start position 0 done ('"' :: rest) = .ok (String.ofList done.reverse, ⟨position + 1, rest⟩) := by
  rw [string.eq_def]
  rfl

theorem string_plain {c : Char} (hquote : c ≠ '"') (hescape : c ≠ '\\') (hcontrol : 0x20 ≤ c.toNat) :
    string start position 0 done (c :: rest) = string start (position + 1) 0 (c :: done) rest := by
  rw [string.eq_def]
  dsimp only
  rw [if_neg hquote, if_neg hescape, if_neg (Nat.not_lt.2 hcontrol)]

theorem string_letter {e c : Char} (he : escape? e = some c) :
    string start position 0 done ('\\' :: e :: rest) =
      string start (position + 1) 1 (c :: done) (e :: rest) := by
  rw [string.eq_def]
  dsimp only
  rw [if_neg (by decide), if_pos rfl]
  split
  · rename_i hnil
    cases hnil
  · rename_i hcons
    obtain ⟨rfl, -⟩ := List.cons.inj hcons
    exact nomatch he
  · rename_i hcons
    obtain ⟨rfl, -⟩ := List.cons.inj hcons
    rw [he]

theorem string_unicode {c : Char} {length : Nat} (h : unicodeEscape (position + 1) rest = .ok (c, length)) :
    string start position 0 done ('\\' :: 'u' :: rest) =
      string start (position + 1) (length + 1) (c :: done) ('u' :: rest) := by
  rw [string.eq_def]
  dsimp only
  rw [if_neg (by decide), if_pos rfl]
  simp only [h]

/-- Characters that belong to an escape are passed over. -/
theorem string_passed (passed : List Char) :
    string start position passed.length done (passed ++ rest) =
      string start (position + passed.length) 0 done rest := by
  induction passed generalizing position with
  | nil => rfl
  | cons c passed ih =>
    rw [List.length_cons, List.cons_append, string, ih, Nat.add_assoc, Nat.add_comm 1]

end

/-- **A spelled string is read as the characters that it spells.** -/
theorem SpellsChars.string_eq {s cs : List Char} (h : SpellsChars s cs) (start position : Nat)
    (done rest : List Char) :
    string start position 0 done (s ++ '"' :: rest) =
      .ok (String.ofList (done.reverse ++ cs), ⟨position + s.length + 1, rest⟩) := by
  induction h generalizing position done with
  | nil => rw [List.nil_append, string_quote, List.append_nil, List.length_nil, Nat.add_zero]
  | @plain c s cs hquote hescape hcontrol _ _ ih =>
    rw [List.cons_append, string_plain _ _ _ _ hquote hescape hcontrol, ih, List.reverse_cons,
      List.append_assoc, List.length_cons, List.singleton_append, Nat.add_right_comm position 1]
    rfl
  | @letter e c s cs he _ ih =>
    have hpassed := string_passed start (position + 1) (c :: done) (s ++ '"' :: rest) [e]
    rw [List.cons_append, List.cons_append, string_letter _ _ _ _ he]
    refine hpassed.trans ?_
    rw [ih, List.reverse_cons, List.append_assoc, List.singleton_append]
    simp only [List.length_cons, List.length_nil, Nat.add_comm, Nat.add_left_comm]
  | @number digits s cs n hn hlone h ih =>
    have hescape := unicodeEscape_number hn hlone h (position + 1) rest
    have hpassed := string_passed start (position + 1) (character n :: done) (s ++ '"' :: rest)
      ('u' :: digits)
    rw [List.length_cons, hn.1] at hpassed
    rw [List.cons_append, List.cons_append, List.append_assoc, string_unicode _ _ _ _ hescape]
    refine hpassed.trans ?_
    rw [ih, List.reverse_cons, List.append_assoc, List.singleton_append]
    simp only [List.length_cons, List.length_append, hn.1, Nat.add_assoc, Nat.add_comm, Nat.add_left_comm]
  | @halves digits digits' s cs m n hm hn hhigh hlow _ h ih =>
    have hescape := unicodeEscape_halves hm hn hhigh hlow (position + 1) (s ++ '"' :: rest)
      (by simp)
    have hpassed := string_passed start (position + 1) (joined m n :: done) (s ++ '"' :: rest)
      ('u' :: (digits ++ '\\' :: 'u' :: digits'))
    simp only [List.length_cons, List.length_append, hm.1, hn.1, List.cons_append,
      List.append_assoc] at hpassed
    rw [List.cons_append, List.cons_append, List.append_assoc, List.cons_append, List.cons_append,
      List.append_assoc, string_unicode _ _ _ _ hescape]
    refine hpassed.trans ?_
    rw [ih, List.reverse_cons, List.append_assoc, List.singleton_append]
    simp only [List.length_cons, List.length_append, hm.1, hn.1, Nat.add_assoc, Nat.add_comm,
      Nat.add_left_comm]

/-! ## Halves -/

theorem hexDigit?_lt {c : Char} {d : Nat} (h : hexDigit? c = some d) : d < 16 := by
  rw [hexDigit?] at h
  split at h
  · rename_i hc
    have hle : c.toNat ≤ '9'.toNat := hc.2
    cases h
    simp only [Char.reduceToNat] at hle ⊢
    omega
  · split at h
    · rename_i hc
      have hle : c.toNat ≤ 'f'.toNat := hc.2
      cases h
      simp only [Char.reduceToNat] at hle ⊢
      omega
    · split at h
      · rename_i hc
        have hle : c.toNat ≤ 'F'.toNat := hc.2
        cases h
        simp only [Char.reduceToNat] at hle ⊢
        omega
      · cases h

theorem IsHex4.lt {digits : List Char} {n : Nat} (h : IsHex4 digits n) : n < 0x10000 := by
  obtain ⟨hlength, hn⟩ := h
  match digits, hlength with
  | [a, b, c, d], _ =>
    have hn := hn 'x' []
    simp only [List.cons_append, List.nil_append, hex4?, Option.bind_eq_bind, Option.pure_def,
      Option.bind_eq_some_iff, Option.some.injEq] at hn
    obtain ⟨a', ha, b', hb, c', hc, d', hd, rfl⟩ := hn
    have := hexDigit?_lt ha
    have := hexDigit?_lt hb
    have := hexDigit?_lt hc
    have := hexDigit?_lt hd
    omega

/-- The character of a code point of the first plane stands for no other half. -/
theorem eq_of_halfCode?_character {n k : Nat} (hn : n < 0x10000) (h : halfCode? (character n) = some k) :
    k = n := by
  rw [character] at h
  by_cases hhalf : isHalfCode n = true
  · rw [if_pos hhalf] at h
    rw [isHalfCode, Bool.and_eq_true, decide_eq_true_eq, decide_eq_true_eq] at hhalf
    have hvalid : (firstHalf + (n - 0xD800)).isValidChar := by
      rw [Nat.isValidChar, firstHalf]
      omega
    rw [halfCode?, toNat_ofNat hvalid] at h
    split at h
    · cases h
      omega
    · cases h
  · rw [if_neg hhalf] at h
    rw [isHalfCode, Bool.and_eq_true, decide_eq_true_eq, decide_eq_true_eq] at hhalf
    have hvalid : n.isValidChar := by
      rw [Nat.isValidChar]
      omega
    rw [halfCode?, toNat_ofNat hvalid] at h
    split at h
    · rename_i hrange
      rw [Bool.and_eq_true, decide_eq_true_eq, decide_eq_true_eq, firstHalf] at hrange
      omega
    · cases h

/-- What an escape of one letter stands for is no half. -/
theorem not_isHalf_of_escape? {e c : Char} (h : escape? e = some c) : isHalf c = false := by
  refine not_isHalf_of_ascii ?_
  rw [escape?.eq_def] at h
  split at h <;>
    · cases h
      try decide

theorem halfCode?_ne_some {c : Char} (h : isHalf c = false) (n : Nat) : halfCode? c ≠ some n := by
  intro hn
  rw [isHalf, hn] at h
  cases h

/-- Characters of which the first is no half, or no second half, keep a half before them apart. -/
def KeepsApart (cs : List Char) : Prop := ∀ d rest n, cs = d :: rest → halfCode? d = some n → isLowHalf n = false

theorem joinHalves_cons {c : Char} {cs : List Char}
    (h : ∀ m, halfCode? c = some m → isHighHalf m = true → KeepsApart cs) :
    joinHalves (c :: cs) = c :: joinHalves cs := by
  cases cs with
  | nil => rfl
  | cons d rest =>
    rw [joinHalves]
    split
    · rename_i m n hm hn
      split
      · rename_i hjoin
        rw [Bool.and_eq_true] at hjoin
        exact Bool.noConfusion ((h m hm hjoin.1 d rest n rfl hn).symm.trans hjoin.2)
      · rfl
    · rfl

/-- Where no escape of a second half is spelled, no second half comes first. -/
theorem SpellsChars.keepsApart {s cs : List Char} (h : SpellsChars s cs) (hlow : ¬ BeginsLowHalf s) :
    KeepsApart cs := by
  rintro d rest n hcons hn
  cases h with
  | nil => cases hcons
  | plain _ _ _ hwhole _ =>
    cases hcons
    exact absurd hn (halfCode?_ne_some hwhole n)
  | letter he _ =>
    cases hcons
    exact absurd hn (halfCode?_ne_some (not_isHalf_of_escape? he) n)
  | @number digits s' _ n' hdigits _ _ =>
    cases hcons
    obtain rfl := eq_of_halfCode?_character hdigits.lt hn
    exact Bool.eq_false_iff.2 fun hlowHalf => hlow ⟨digits, n, s', hdigits, hlowHalf, rfl⟩
  | halves _ _ _ _ hwhole _ =>
    obtain ⟨rfl, -⟩ := List.cons.inj hcons
    exact absurd hn (halfCode?_ne_some hwhole n)

/-- What a string spells has no two halves of one character that follow each other. -/
theorem SpellsChars.joinHalves_eq {s cs : List Char} (h : SpellsChars s cs) : joinHalves cs = cs := by
  induction h with
  | nil => rfl
  | plain _ _ _ hwhole _ ih =>
    rw [joinHalves_cons fun m hm => absurd hm (halfCode?_ne_some hwhole m), ih]
  | letter he _ ih =>
    rw [joinHalves_cons fun m hm => absurd hm (halfCode?_ne_some (not_isHalf_of_escape? he) m), ih]
  | @number digits s cs n hdigits hlone h ih =>
    have hapart : ∀ m, halfCode? (character n) = some m → isHighHalf m = true → KeepsApart cs := by
      intro m hm hhigh
      obtain rfl := eq_of_halfCode?_character hdigits.lt hm
      exact h.keepsApart (hlone hhigh)
    rw [joinHalves_cons hapart, ih]
  | halves _ _ _ _ hwhole _ ih =>
    rw [joinHalves_cons fun m hm => absurd hm (halfCode?_ne_some hwhole m), ih]

theorem SpellsChars.joinedHalves_eq {s cs : List Char} (h : SpellsChars s cs) :
    Text.joinedHalves (String.ofList cs) = String.ofList cs := by
  rw [Text.joinedHalves, String.toList_ofList, h.joinHalves_eq, ite_self]

end RuleLabels.Json
