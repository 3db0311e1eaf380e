import Mathlib.Tactic.Common
import RuleLabels.Proofs.Text.Digits
import RuleLabels.Text.Percent

/-!
# Percent signs are read back

A text is written in bytes, and bytes that may not stand in an address behind percent signs.

* `decodeLossily_utf8Bytes`: the bytes of a text are decoded to this text;
* `percentBytes_percentEncode`: what is encoded stands for the bytes of the text;
* `percentDecode_append_percentEncode` puts the two together;
* `percentDecode_ne_empty`: what is decoded is empty only if nothing was there.
-/

namespace RuleLabels.Text

/-! ## The bytes of a text -/

theorem utf8Bytes_eq_flatMap (s : String) : utf8Bytes s = s.toList.flatMap String.utf8EncodeChar := by
  rw [utf8Bytes, String.toUTF8_eq_toByteArray, ← String.ofList_toList (s := s), String.toByteArray_ofList,
    List.utf8Encode, List.toList_data_toByteArray, String.ofList_toList]

theorem utf8Bytes_singleton (c : Char) : utf8Bytes (String.singleton c) = String.utf8EncodeChar c := by
  rw [utf8Bytes_eq_flatMap, String.toList_singleton, List.flatMap_singleton]

/-! ## Decoding -/

/-- What a first byte announces, by its number. -/
theorem leadByte?_ofNat : ∀ n < 256, leadByte? (UInt8.ofNat n) =
    if n < 0x80 then some (1, n)
    else if n < 0xC2 then none
    else if n < 0xE0 then some (2, n % 0x20)
    else if n < 0xF0 then some (3, n % 0x10)
    else if n < 0xF5 then some (4, n % 0x08)
    else none := by
  decide +kernel

theorem isContinuation_ofNat : ∀ n < 0x40, isContinuation (UInt8.ofNat (n + 128)) = true := by
  decide +kernel

/-- A number that may stand in the second byte behind a first byte with a number. -/
def MayFollow (lead n : Nat) : Prop :=
  (lead = 0x20 → 0x20 ≤ n) ∧ (lead = 0x2D → n < 0x20) ∧ (lead = 0x30 → 0x10 ≤ n) ∧ (lead = 0x34 → n < 0x10)

instance (lead n : Nat) : Decidable (MayFollow lead n) := inferInstanceAs (Decidable (_ ∧ _))

theorem secondByteFits_ofNat : ∀ lead < 0x36, ∀ n < 0x40, MayFollow lead n →
    secondByteFits (UInt8.ofNat (lead + 192)) (UInt8.ofNat (n + 128)) = true := by
  decide +kernel

theorem toNat_ofNat_mod : ∀ n < 0x40, (UInt8.ofNat (n + 128)).toNat % 0x40 = n := by
  decide +kernel

/-- The second byte of a character adds six bits. -/
theorem continuation_second {lead n : Nat} (hlead : lead < 0x36) (hn : n < 0x40) (h : MayFollow lead n)
    (need acc : Nat) (rest : List UInt8) :
    continuation (UInt8.ofNat (lead + 192)) (need + 1) 1 acc (UInt8.ofNat (n + 128) :: rest) =
      continuation (UInt8.ofNat (lead + 192)) need 2 (acc * 0x40 + n) rest := by
  rw [continuation, if_pos rfl, if_pos (secondByteFits_ofNat lead hlead n hn h), toNat_ofNat_mod n hn]

/-- A later byte of a character adds six bits. -/
theorem continuation_later {n : Nat} (hn : n < 0x40) (lead : UInt8) (need seen acc : Nat) (rest : List UInt8) :
    continuation lead (need + 1) (seen + 2) acc (UInt8.ofNat (n + 128) :: rest) =
      continuation lead need (seen + 3) (acc * 0x40 + n) rest := by
  have hseen : ¬ seen + 2 = 1 := by omega
  rw [continuation, if_neg hseen, if_pos (isContinuation_ofNat n hn), toNat_ofNat_mod n hn]

theorem decodeLossily_of_continuation {b : UInt8} {bytes rest : List UInt8} {count bits : Nat} {c : Char}
    (hlead : leadByte? b = some (count, bits))
    (h : continuation b (count - 1) 1 bits bytes = .ok (c.toNat, rest)) (fuel : Nat) (done : List Char) :
    decodeLossily (fuel + 1) (b :: bytes) done = decodeLossily fuel rest (c :: done) := by
  rw [decodeLossily, hlead]
  simp only [h, Char.ofNat_toNat]

/-- The bytes of a character are decoded to this character. -/
theorem decodeLossily_utf8EncodeChar (c : Char) (fuel : Nat) (rest : List UInt8) (done : List Char) :
    decodeLossily (fuel + 1) (String.utf8EncodeChar c ++ rest) done = decodeLossily fuel rest (c :: done) := by
  have hvalid : c.toNat < 0xD800 ∨ 0xDFFF < c.toNat ∧ c.toNat < 0x110000 := c.valid
  rw [String.utf8EncodeChar, ← Char.toNat]
  generalize hv : c.toNat = v at hvalid
  split_ifs with h1 h2 h3
  · refine decodeLossily_of_continuation ((leadByte?_ofNat v (by omega)).trans (if_pos (by omega))) ?_ fuel done
    rw [hv]
    rfl
  · have hlead : leadByte? (UInt8.ofNat (v / 64 % 32 + 192)) = some (2, v / 64) := by
      rw [leadByte?_ofNat _ (by omega), if_neg (by omega), if_neg (by omega), if_pos (by omega)]
      congr 2
      omega
    refine decodeLossily_of_continuation hlead ?_ fuel done
    have hsecond : MayFollow (v / 64 % 32) (v % 64) := by
      rw [MayFollow]
      omega
    refine (continuation_second (by omega) (by omega) hsecond 0 _ rest).trans ?_
    rw [continuation, hv]
    congr 2
    omega
  · have hlead : leadByte? (UInt8.ofNat (v / 4096 % 16 + 224)) = some (3, v / 4096) := by
      rw [leadByte?_ofNat _ (by omega), if_neg (by omega), if_neg (by omega), if_neg (by omega),
        if_pos (by omega)]
      congr 2
      omega
    refine decodeLossily_of_continuation hlead ?_ fuel done
    have hsecond : MayFollow (v / 4096 % 16 + 32) (v / 64 % 64) := by
      rw [MayFollow]
      omega
    refine (continuation_second (by omega) (by omega) hsecond 1 _ _).trans ?_
    refine (continuation_later (by omega) _ 0 0 _ rest).trans ?_
    rw [continuation, hv]
    congr 2
    omega
  · have hlead : leadByte? (UInt8.ofNat (v / 262144 % 8 + 240)) = some (4, v / 262144) := by
      rw [leadByte?_ofNat _ (by omega), if_neg (by omega), if_neg (by omega), if_neg (by omega),
        if_neg (by omega), if_pos (by omega)]
      congr 2
      omega
    refine decodeLossily_of_continuation hlead ?_ fuel done
    have hsecond : MayFollow (v / 262144 % 8 + 48) (v / 4096 % 64) := by
      rw [MayFollow]
      omega
    refine (continuation_second (by omega) (by omega) hsecond 2 _ _).trans ?_
    refine (continuation_later (by omega) _ 1 0 _ _).trans ?_
    refine (continuation_later (by omega) _ 0 1 _ rest).trans ?_
    rw [continuation, hv]
    congr 2
    omega

theorem utf8EncodeChar_ne_nil (c : Char) : String.utf8EncodeChar c ≠ [] := by
  rw [String.utf8EncodeChar]
  split_ifs <;> exact List.cons_ne_nil _ _

/-- The bytes of a text are decoded to this text. -/
theorem decodeLossily_utf8Bytes (cs done : List Char) {fuel : Nat}
    (hfuel : (cs.flatMap String.utf8EncodeChar).length ≤ fuel) :
    decodeLossily fuel (cs.flatMap String.utf8EncodeChar) done = done.reverse ++ cs := by
  induction cs generalizing done fuel with
  | nil => cases fuel <;> rw [List.flatMap_nil, decodeLossily, List.append_nil]
  | cons c rest ih =>
    have hpos := List.length_pos_iff.2 (utf8EncodeChar_ne_nil c)
    rw [List.flatMap_cons, List.length_append] at hfuel
    obtain ⟨fuel, rfl⟩ : ∃ n, fuel = n + 1 := ⟨fuel - 1, by omega⟩
    rw [List.flatMap_cons, decodeLossily_utf8EncodeChar, ih _ (by omega), List.reverse_cons, List.append_assoc,
      List.singleton_append]

/-- Decoding drops no character that is there already. -/
theorem decodeLossily_ne_nil {fuel : Nat} {bytes : List UInt8} {done : List Char} (h : done ≠ []) :
    decodeLossily fuel bytes done ≠ [] := by
  fun_induction decodeLossily fuel bytes done with
  | case1 | case2 => exact fun hnil => h (List.reverse_eq_nil_iff.1 hnil)
  | case3 _ _ _ _ _ ih | case4 _ _ _ _ _ _ _ _ _ _ ih | case5 _ _ _ _ _ _ _ _ _ _ ih => exact ih (List.cons_ne_nil _ _)

/-! ## Percent signs -/

theorem percentBytes_cons {c : Char} (h : c ≠ '%') (rest : List Char) :
    percentBytes (c :: rest) = String.utf8EncodeChar c ++ percentBytes rest := by
  rw [percentBytes.eq_def]
  split
  · rename_i heq
    exact absurd (List.cons.inj heq).1 h
  · rename_i heq
    obtain ⟨rfl, rfl⟩ := List.cons.inj heq
    rw [utf8Bytes_singleton]
  · rename_i heq
    exact nomatch heq

/-- A text without percent signs stands for its own bytes. -/
theorem percentBytes_append {cs : List Char} (h : '%' ∉ cs) (rest : List Char) :
    percentBytes (cs ++ rest) = cs.flatMap String.utf8EncodeChar ++ percentBytes rest := by
  induction cs with
  | nil => rfl
  | cons c cs ih =>
    rw [List.mem_cons, not_or] at h
    rw [List.cons_append, percentBytes_cons (Ne.symm h.1), ih h.2, List.flatMap_cons, List.append_assoc]

/-- One byte is three characters: the percent sign and the digits of its two halves. -/
theorem percentByte_digits : ∀ n < 256, ∃ a b, percentByte (UInt8.ofNat n) = ['%', a, b] ∧
    hexDigit? a = some (n / 16) ∧ hexDigit? b = some (n % 16) := by
  have hdigits : ∀ n < 256, (percentByte (UInt8.ofNat n)).length = 3 ∧
      (percentByte (UInt8.ofNat n)).head? = some '%' ∧
      (percentByte (UInt8.ofNat n))[1]?.bind hexDigit? = some (n / 16) ∧
      (percentByte (UInt8.ofNat n))[2]?.bind hexDigit? = some (n % 16) := by
    decide +kernel
  intro n hn
  obtain ⟨hlength, hhead, hhigh, hlow⟩ := hdigits n hn
  match percentByte (UInt8.ofNat n), hlength, hhead, hhigh, hlow with
  | [c, a, b], _, hhead, hhigh, hlow =>
    obtain rfl : c = '%' := Option.some.inj hhead
    exact ⟨a, b, rfl, hhigh, hlow⟩

theorem percentBytes_percentByte (b : UInt8) (rest : List Char) :
    percentBytes (percentByte b ++ rest) = b :: percentBytes rest := by
  obtain ⟨n, hn, rfl⟩ : ∃ n < 256, b = UInt8.ofNat n := ⟨b.toNat, b.toNat_lt, b.ofNat_toNat.symm⟩
  obtain ⟨x, y, hbyte, hx, hy⟩ := percentByte_digits n hn
  rw [hbyte, List.cons_append, List.cons_append, List.singleton_append, percentBytes.eq_def]
  simp only [hx, hy]
  rw [Nat.div_add_mod' n 16]

/-- An unreserved byte is a character by itself, and no percent sign. -/
theorem isUnreserved_ofNat : ∀ n < 256, isUnreserved (UInt8.ofNat n) = true → n < 0x80 ∧ Char.ofNat n ≠ '%' := by
  decide +kernel

theorem toNat_charOfNat : ∀ n < 256, (Char.ofNat n).toNat = n := by
  decide +kernel

/-- One byte, as it is written in an address, is read back. -/
theorem percentBytes_encoded {kept : List Char} (hkept : ∀ c ∈ kept, c.toNat < 0x80 ∧ c ≠ '%') (b : UInt8)
    (rest : List Char) :
    percentBytes ((if isUnreserved b || kept.contains (Char.ofNat b.toNat) then [Char.ofNat b.toNat]
      else percentByte b) ++ rest) = b :: percentBytes rest := by
  split
  · rename_i h
    obtain ⟨n, hn, rfl⟩ : ∃ n < 256, b = UInt8.ofNat n := ⟨b.toNat, b.toNat_lt, b.ofNat_toNat.symm⟩
    have hnat : (UInt8.ofNat n).toNat = n := UInt8.toNat_ofNat_of_lt' hn
    rw [hnat, Bool.or_eq_true, List.contains_iff_mem] at h
    have hplain : n < 0x80 ∧ Char.ofNat n ≠ '%' := by
      rcases h with h | h
      · exact isUnreserved_ofNat n hn h
      · have := hkept _ h
        rwa [toNat_charOfNat n hn] at this
    rw [hnat, List.singleton_append, percentBytes_cons hplain.2,
      utf8EncodeChar_of_ascii (by rw [toNat_charOfNat n hn]; exact hplain.1), toNat_charOfNat n hn]
    rfl
  · exact percentBytes_percentByte b rest

/-- What is encoded stands for the bytes of the text. -/
theorem percentBytes_percentEncode {kept : List Char} (hkept : ∀ c ∈ kept, c.toNat < 0x80 ∧ c ≠ '%') (s : String)
    (rest : List Char) :
    percentBytes ((percentEncode kept s).toList ++ rest) = utf8Bytes s ++ percentBytes rest := by
  rw [percentEncode, String.toList_ofList]
  induction utf8Bytes s with
  | nil => rfl
  | cons b bytes ih =>
    rw [List.flatMap_cons, List.append_assoc, percentBytes_encoded hkept, ih, List.cons_append]

/-- A text between two without percent signs is read back from its encoded form. -/
theorem percentDecode_between {front back : String} (hfront : '%' ∉ front.toList) (hback : '%' ∉ back.toList)
    {kept : List Char} (hkept : ∀ c ∈ kept, c.toNat < 0x80 ∧ c ≠ '%') (s : String) :
    percentDecode (front ++ percentEncode kept s ++ back) = front ++ s ++ back := by
  have hbehind : percentBytes back.toList = back.toList.flatMap String.utf8EncodeChar := by
    have := percentBytes_append hback []
    rwa [percentBytes, List.append_nil, List.append_nil] at this
  have hbytes : percentBytes (front ++ percentEncode kept s ++ back).toList =
      (front ++ s ++ back).toList.flatMap String.utf8EncodeChar := by
    rw [String.toList_append, String.toList_append, List.append_assoc, percentBytes_append hfront,
      percentBytes_percentEncode hkept, hbehind, utf8Bytes_eq_flatMap, String.toList_append,
      String.toList_append, List.append_assoc, List.flatMap_append, List.flatMap_append]
  rw [percentDecode, hbytes, decodeLossily_utf8Bytes _ _ (Nat.le_refl _), List.reverse_nil, List.nil_append,
    String.ofList_toList]

/-- A text behind one without percent signs is read back from its encoded form. -/
theorem percentDecode_append_percentEncode {front : String} (hfront : '%' ∉ front.toList) {kept : List Char}
    (hkept : ∀ c ∈ kept, c.toNat < 0x80 ∧ c ≠ '%') (s : String) :
    percentDecode (front ++ percentEncode kept s) = front ++ s := by
  have hempty : '%' ∉ "".toList := List.not_mem_nil
  have := percentDecode_between hfront hempty hkept s
  rwa [String.append_empty, String.append_empty] at this

/-! ## Nothing is lost -/

theorem percentBytes_ne_nil {cs : List Char} (h : cs ≠ []) : percentBytes cs ≠ [] := by
  rw [percentBytes.eq_def]
  split
  · split <;> exact List.cons_ne_nil _ _
  · rw [utf8Bytes_singleton]
    exact List.append_ne_nil_of_left_ne_nil (utf8EncodeChar_ne_nil _) _
  · exact absurd rfl h

/-- Bytes are decoded to some characters. -/
theorem decodeLossily_cons_ne_nil (fuel : Nat) (b : UInt8) (rest : List UInt8) (done : List Char) :
    decodeLossily (fuel + 1) (b :: rest) done ≠ [] := by
  rw [decodeLossily]
  split
  · exact decodeLossily_ne_nil (List.cons_ne_nil _ _)
  · split <;> exact decodeLossily_ne_nil (List.cons_ne_nil _ _)

/-- What is decoded is empty only if nothing was there. -/
theorem percentDecode_ne_empty {s : String} (h : s ≠ "") : percentDecode s ≠ "" := by
  have hlist : s.toList ≠ [] := fun hnil => h (String.toList_eq_nil_iff.1 hnil)
  obtain ⟨b, rest, hbytes⟩ := List.exists_cons_of_ne_nil (percentBytes_ne_nil hlist)
  rw [percentDecode, hbytes, Ne, String.ofList_eq_empty_iff]
  exact decodeLossily_cons_ne_nil _ b rest []

end RuleLabels.Text
