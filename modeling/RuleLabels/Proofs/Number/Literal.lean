import Mathlib.Data.List.Basic
import Mathlib.Data.List.TakeWhile
import Mathlib.Tactic.Common
import RuleLabels.Number.Decimal

/-!
# Spelled literals

A grammar says which texts are decimal literals, without regard to how they are read: an optional sign, and either
the word for infinity or digits with an optional point among them, behind which a complete exponent may stand.  The
reader decides at each character, and does not go back.  It finds the longest literal at the front of a text all
the same.

* `Spells`: the grammar;
* `atFront?_sound`: what is read is a literal at the front of the text;
* `atFront?_complete`: where a literal stands at the front of a text, this one or a longer one is read;
* `Longest`, `atFront?_eq_some_iff`, `atFront?_eq_none_iff`: so the longest one is read, and none only where there
  is none.
-/

namespace RuleLabels.NumberLiteral

open Text

/-! ## The grammar -/

/-- Digits and nothing else. -/
def AllDigits (s : List Char) : Prop := ∀ c ∈ s, isAsciiDigit c = true

/-- The values of digits. -/
def digitValues (s : List Char) : List Nat := s.map fun c => c.toNat - '0'.toNat

/-- An optional sign, which is negative or not. -/
inductive SpellsSign : Bool → List Char → Prop where
  | absent : SpellsSign false []
  | plus : SpellsSign false ['+']
  | minus : SpellsSign true ['-']

/-- Digits with an optional point and optional digits behind it, or a point and digits. -/
inductive SpellsMantissa : List Nat → List Nat → List Char → Prop where
  | whole {w : List Char} : AllDigits w → w ≠ [] → SpellsMantissa (digitValues w) [] w
  | point {w f : List Char} : AllDigits w → w ≠ [] → AllDigits f →
    SpellsMantissa (digitValues w) (digitValues f) (w ++ '.' :: f)
  | fraction {f : List Char} : AllDigits f → f ≠ [] → SpellsMantissa [] (digitValues f) ('.' :: f)

/-- The number that digits behind a sign stand for. -/
def signed (negative : Bool) (digits : List Nat) : Int :=
  if negative then -(ofDigits 10 digits : Int) else ofDigits 10 digits

/-- An optional exponent: a letter, an optional sign and digits. -/
inductive SpellsExponent : Int → List Char → Prop where
  | absent : SpellsExponent 0 []
  | digits {c : Char} {negative : Bool} {g ds : List Char} : c = 'e' ∨ c = 'E' → SpellsSign negative g →
    AllDigits ds → ds ≠ [] → SpellsExponent (signed negative (digitValues ds)) (c :: (g ++ ds))

/-- The texts that are decimal literals. -/
inductive Spells : NumberLiteral → List Char → Prop where
  | infinity {negative : Bool} {g : List Char} : SpellsSign negative g →
    Spells (.infinity negative) (g ++ ['I', 'n', 'f', 'i', 'n', 'i', 't', 'y'])
  | decimal {negative : Bool} {whole fraction : List Nat} {e : Int} {g m x : List Char} :
    SpellsSign negative g → SpellsMantissa whole fraction m → SpellsExponent e x →
    Spells (.decimal negative whole fraction e) (g ++ (m ++ x))

/-- A literal at the front of a text, and no longer one stands there. -/
structure Longest (s p : List Char) (l : NumberLiteral) : Prop where
  isPrefix : p <+: s
  spells : Spells l p
  length_le : ∀ p' l', p' <+: s → Spells l' p' → p'.length ≤ p.length

/-- A text begins with a digit or a point. -/
def IsNumeric (s : List Char) : Prop := ∃ c rest, s = c :: rest ∧ (isAsciiDigit c = true ∨ c = '.')

theorem SpellsMantissa.isNumeric {whole fraction : List Nat} {m : List Char}
    (h : SpellsMantissa whole fraction m) : IsNumeric m := by
  cases h with
  | fraction _ _ => exact ⟨'.', _, rfl, .inr rfl⟩
  | whole hw hne =>
    obtain ⟨c, rest, rfl⟩ := List.exists_cons_of_ne_nil hne
    exact ⟨c, rest, rfl, .inl (hw c List.mem_cons_self)⟩
  | point hw hne _ =>
    obtain ⟨c, rest, rfl⟩ := List.exists_cons_of_ne_nil hne
    exact ⟨c, _, rfl, .inl (hw c List.mem_cons_self)⟩

theorem Spells.ne_nil {l : NumberLiteral} {p : List Char} (h : Spells l p) : p ≠ [] := by
  cases h with
  | infinity _ => exact List.append_ne_nil_of_right_ne_nil _ (by decide)
  | decimal _ hm _ =>
    obtain ⟨c, rest, rfl, -⟩ := hm.isNumeric
    exact List.append_ne_nil_of_right_ne_nil _ (List.cons_ne_nil _ _)

/-! ## Digits -/

theorem digits_sound (s : List Char) :
    ∃ ds, s = ds ++ (digits s).2 ∧ AllDigits ds ∧ (digits s).1 = digitValues ds :=
  ⟨s.takeWhile isAsciiDigit, List.takeWhile_append_dropWhile.symm, fun _ hc => List.mem_takeWhile_imp hc, rfl⟩

/-- The digits at the front of a text are read together with those that follow them. -/
theorem digits_append {ds : List Char} (hds : AllDigits ds) (s : List Char) :
    digits (ds ++ s) = (digitValues ds ++ (digits s).1, (digits s).2) := by
  rw [digits, digits, List.takeWhile_append_of_pos hds, List.dropWhile_append_of_pos hds, List.map_append]
  rfl

theorem digits_of_not_isAsciiDigit {s : List Char} (h : ∀ c rest, s = c :: rest → isAsciiDigit c = false) :
    digits s = ([], s) := by
  cases s with
  | nil => rfl
  | cons c rest =>
    have hc : ¬ isAsciiDigit c = true := Bool.eq_false_iff.1 (h c rest rfl)
    rw [digits, List.takeWhile_cons_of_neg hc, List.dropWhile_cons_of_neg hc]
    rfl

/-- Either there are no digits, or the rest is shorter. -/
theorem digits_eq_or_lt (s : List Char) :
    digits s = ([], s) ∨ (digits s).2.length < s.length ∧ IsNumeric s := by
  obtain ⟨ds, hs, hds, hvalues⟩ := digits_sound s
  cases ds with
  | nil => exact .inl (Prod.ext hvalues hs.symm)
  | cons c ds =>
    right
    have hlength := congrArg List.length hs
    rw [List.length_append, List.length_cons] at hlength
    exact ⟨by omega, c, _, hs, .inl (hds c List.mem_cons_self)⟩

theorem length_digits_le (s : List Char) : (digits s).2.length ≤ s.length := by
  obtain ⟨ds, hs, -, -⟩ := digits_sound s
  have hlength := congrArg List.length hs
  rw [List.length_append] at hlength
  omega

theorem digitValues_ne_nil {ds : List Char} (h : ds ≠ []) : digitValues ds ≠ [] :=
  fun hnil => h (List.map_eq_nil_iff.1 hnil)

/-! ## Signs -/

theorem sign_sound (s : List Char) : ∃ g, s = g ++ (sign s).2 ∧ SpellsSign (sign s).1 g := by
  rw [sign.eq_def]
  split
  · exact ⟨['-'], rfl, .minus⟩
  · exact ⟨['+'], rfl, .plus⟩
  · exact ⟨[], rfl, .absent⟩

/-- A sign is read where none follows it. -/
theorem sign_append {negative : Bool} {g : List Char} (h : SpellsSign negative g) {s : List Char}
    (hs : ∀ c rest, s = c :: rest → c ≠ '-' ∧ c ≠ '+') : sign (g ++ s) = (negative, s) := by
  cases h with
  | plus => rfl
  | minus => rfl
  | absent =>
    rw [List.nil_append, sign.eq_def]
    split
    · exact absurd rfl (hs _ _ rfl).1
    · exact absurd rfl (hs _ _ rfl).2
    · rfl

theorem not_sign_of_isAsciiDigit {c : Char} (h : isAsciiDigit c = true) : c ≠ '-' ∧ c ≠ '+' := by
  constructor
  · rintro rfl
    exact absurd h (by decide)
  · rintro rfl
    exact absurd h (by decide)

/-! ## Exponents -/

theorem exponent?_sound {s rest : List Char} {e : Int} {n : Nat} (h : exponent? s = some (e, n, rest)) :
    ∃ x, x ≠ [] ∧ s = x ++ rest ∧ SpellsExponent e x := by
  cases s with
  | nil => exact nomatch h
  | cons c s =>
    rw [exponent?] at h
    by_cases hc : c = 'e' ∨ c = 'E'
    · rw [if_pos hc] at h
      obtain ⟨g, hs, hg⟩ := sign_sound s
      obtain ⟨ds, hbody, hds, hvalues⟩ := digits_sound (sign s).2
      dsimp only at h
      split at h
      · exact nomatch h
      · rename_i values tail hne hdigits
        rw [hdigits] at hbody hvalues
        cases h
        refine ⟨c :: (g ++ ds), List.cons_ne_nil _ _, ?_, ?_⟩
        · rw [List.cons_append, List.append_assoc, ← hbody, ← hs]
        · have hvalues : values = digitValues ds := hvalues
          subst hvalues
          refine .digits hc hg hds fun hnil => ?_
          rw [hnil] at hne
          exact hne rfl
    · rw [if_neg hc] at h
      exact nomatch h

theorem exponent_sound (s : List Char) :
    ∃ x, s = x ++ (exponent s).2 ∧ SpellsExponent (exponent s).1 x := by
  rw [exponent.eq_def]
  split
  · rename_i h
    obtain ⟨x, -, hx⟩ := exponent?_sound h
    exact ⟨x, hx⟩
  · exact ⟨[], rfl, .absent⟩

theorem length_exponent_le (s : List Char) : (exponent s).2.length ≤ s.length := by
  obtain ⟨x, hs, -⟩ := exponent_sound s
  have hlength := congrArg List.length hs
  rw [List.length_append] at hlength
  omega

/-- Either there is no exponent, or the rest is shorter. -/
theorem exponent_eq_or_lt (s : List Char) : exponent s = (0, s) ∨ (exponent s).2.length < s.length := by
  rw [exponent.eq_def]
  split
  · rename_i h
    obtain ⟨x, hne, rfl, -⟩ := exponent?_sound h
    right
    rw [List.length_append]
    exact Nat.lt_add_of_pos_left (List.length_pos_iff.2 hne)
  · exact .inl rfl

/-- The digits of an exponent are read together with those that follow them. -/
theorem exponent_digits {c : Char} {negative : Bool} {g ds : List Char} (hc : c = 'e' ∨ c = 'E')
    (hg : SpellsSign negative g) (hds : AllDigits ds) (hne : ds ≠ []) (s : List Char) :
    exponent (c :: (g ++ (ds ++ s))) = (signed negative (digitValues ds ++ (digits s).1), (digits s).2) := by
  have hsign : sign (g ++ (ds ++ s)) = (negative, ds ++ s) := by
    obtain ⟨d, rest, rfl⟩ := List.exists_cons_of_ne_nil hne
    refine sign_append hg fun c' rest' h => ?_
    obtain ⟨rfl, -⟩ := List.cons.inj h
    exact not_sign_of_isAsciiDigit (hds d List.mem_cons_self)
  obtain ⟨v, vs, hvalues⟩ := List.exists_cons_of_ne_nil (digitValues_ne_nil hne)
  have hdigits := digits_append hds s
  rw [hvalues, List.cons_append] at hdigits
  rw [exponent, exponent?, if_pos hc, hsign]
  dsimp only
  rw [hdigits, hvalues]
  rfl

/-- The exponent at the front of a text is read, or a longer one. -/
theorem exponent_complete {e : Int} {x : List Char} (h : SpellsExponent e x) (s : List Char) :
    exponent (x ++ s) = (e, s) ∨ (exponent (x ++ s)).2.length < s.length := by
  cases h with
  | absent => exact exponent_eq_or_lt s
  | digits hc hg hds hne =>
    rw [List.cons_append, List.append_assoc, exponent_digits hc hg hds hne]
    rcases digits_eq_or_lt s with h | h
    · left
      rw [h, List.append_nil]
    · exact .inr h.1

/-! ## Digits with a point -/

theorem mantissa?_whole {s rest : List Char} {w : List Nat} (h : digits s = (w, rest)) (hw : w ≠ [])
    (hrest : ∀ tail, rest ≠ '.' :: tail) : mantissa? s = some (w, [], rest) := by
  rw [mantissa?, h]
  split
  · rename_i heq
    exact absurd (congrArg Prod.fst heq) hw
  · rename_i heq
    exact absurd (congrArg Prod.fst heq) hw
  · rename_i heq
    exact absurd (congrArg Prod.snd heq) (hrest _)
  · rename_i heq
    cases heq
    rfl

theorem mantissa?_point {s rest : List Char} {w : List Nat} (h : digits s = (w, '.' :: rest)) (hw : w ≠ []) :
    mantissa? s = some (w, (digits rest).1, (digits rest).2) := by
  obtain ⟨v, vs, rfl⟩ := List.exists_cons_of_ne_nil hw
  rw [mantissa?, h]
  rfl

theorem mantissa?_fraction {rest tail : List Char} {f : List Nat} (h : digits rest = (f, tail)) (hf : f ≠ []) :
    mantissa? ('.' :: rest) = some ([], f, tail) := by
  obtain ⟨v, vs, rfl⟩ := List.exists_cons_of_ne_nil hf
  have hpoint : digits ('.' :: rest) = ([], '.' :: rest) := rfl
  rw [mantissa?, hpoint]
  simp only [h]

theorem mantissa?_sound {s rest : List Char} {w f : List Nat} (h : mantissa? s = some (w, f, rest)) :
    ∃ m, s = m ++ rest ∧ SpellsMantissa w f m := by
  obtain ⟨ds, hs, hds, hvalues⟩ := digits_sound s
  rw [mantissa?.eq_def] at h
  split at h
  · -- no digits before the point
    rename_i tail hdigits
    obtain ⟨fs, htail, hfs, hfvalues⟩ := digits_sound tail
    split at h
    · exact nomatch h
    · rename_i hne hfraction
      cases h
      rw [hfraction] at htail hfvalues
      have hfvalues : f = digitValues fs := hfvalues
      subst hfvalues
      have hnil : ds = [] := by
        rw [hdigits] at hvalues
        exact List.map_eq_nil_iff.1 hvalues.symm
      rw [hdigits, hnil] at hs
      refine ⟨'.' :: fs, ?_, .fraction hfs fun h => ?_⟩
      · rw [hs, List.nil_append, List.cons_append, ← htail]
      · rw [h] at hne
        exact hne rfl
  · exact nomatch h
  · rename_i whole tail hne hdigits
    obtain ⟨fs, htail, hfs, hfvalues⟩ := digits_sound tail
    obtain ⟨rfl, rfl, rfl⟩ : whole = w ∧ (digits tail).1 = f ∧ (digits tail).2 = rest := by
      cases h
      exact ⟨rfl, rfl, rfl⟩
    rw [hdigits] at hs hvalues
    have hvalues : whole = digitValues ds := hvalues
    subst hvalues
    rw [hfvalues]
    refine ⟨ds ++ '.' :: fs, ?_, .point hds (fun h => ?_) hfs⟩
    · rw [List.append_assoc, List.cons_append, ← htail]
      exact hs
    · rw [h] at hne
      exact hne rfl
  · rename_i whole tail hne _ hdigits
    cases h
    rw [hdigits] at hs hvalues
    have hvalues : w = digitValues ds := hvalues
    subst hvalues
    refine ⟨ds, hs, .whole hds fun h => ?_⟩
    rw [h] at hne
    exact hne rfl

/-- The digits at the front of a text are read, or more of them where the text goes on so. -/
theorem mantissa?_complete {w f : List Nat} {m : List Char} (h : SpellsMantissa w f m) (s : List Char) :
    mantissa? (m ++ s) = some (w, f, s) ∨
      IsNumeric s ∧ ∃ w' f' rest, mantissa? (m ++ s) = some (w', f', rest) ∧ rest.length < s.length := by
  cases h with
  | whole hm hne =>
    have hdigits := digits_append hm s
    have hvalues : digitValues m ++ (digits s).1 ≠ [] :=
      List.append_ne_nil_of_left_ne_nil (digitValues_ne_nil hne) _
    by_cases hpoint : ∃ tail, (digits s).2 = '.' :: tail
    · -- the point and what is behind it belong to the number
      right
      obtain ⟨tail, htail⟩ := hpoint
      have hle := length_digits_le tail
      have hlength := length_digits_le s
      rw [htail, List.length_cons] at hlength
      rw [htail] at hdigits
      refine ⟨?_, _, _, _, mantissa?_point hdigits hvalues, by omega⟩
      rcases digits_eq_or_lt s with hs | hs
      · rw [hs] at htail
        exact ⟨'.', tail, htail, .inr rfl⟩
      · exact hs.2
    · have hread := mantissa?_whole hdigits hvalues fun tail htail => hpoint ⟨tail, htail⟩
      rcases digits_eq_or_lt s with hs | hs
      · rw [hs, List.append_nil] at hread
        exact .inl hread
      · exact .inr ⟨hs.2, _, _, _, hread, hs.1⟩
  | @point ds fs hds hne hfs =>
    have hdigits : digits (ds ++ '.' :: (fs ++ s)) = (digitValues ds, '.' :: (fs ++ s)) := by
      have hpoint : digits ('.' :: (fs ++ s)) = ([], '.' :: (fs ++ s)) := rfl
      rw [digits_append hds, hpoint, List.append_nil]
    have hread := mantissa?_point hdigits (digitValues_ne_nil hne)
    rw [digits_append hfs] at hread
    rw [List.append_assoc, List.cons_append]
    rcases digits_eq_or_lt s with hs | hs
    · rw [hs, List.append_nil] at hread
      exact .inl hread
    · exact .inr ⟨hs.2, _, _, _, hread, hs.1⟩
  | @fraction fs hfs hne =>
    have hread := mantissa?_fraction (digits_append hfs s)
      (List.append_ne_nil_of_left_ne_nil (digitValues_ne_nil hne) _)
    rw [List.cons_append]
    rcases digits_eq_or_lt s with hs | hs
    · rw [hs, List.append_nil] at hread
      exact .inl hread
    · exact .inr ⟨hs.2, _, _, _, hread, hs.1⟩

/-! ## Literals -/

theorem atFront?_infinity {s rest : List Char} {negative : Bool}
    (h : sign s = (negative, ['I', 'n', 'f', 'i', 'n', 'i', 't', 'y'] ++ rest)) :
    atFront? s = some (.infinity negative, rest) := by
  rw [atFront?, h]
  rfl

theorem atFront?_decimal {negative : Bool} {g m : List Char} {w f : List Nat} (hg : SpellsSign negative g)
    (hm : IsNumeric m) {s rest : List Char} (hread : mantissa? (m ++ s) = some (w, f, rest)) :
    atFront? (g ++ (m ++ s)) = some (.decimal negative w f (exponent rest).1, (exponent rest).2) := by
  obtain ⟨c, tail, rfl, hc⟩ := hm
  have hsign : sign (g ++ (c :: tail ++ s)) = (negative, c :: tail ++ s) := by
    refine sign_append hg fun c' rest hcons => ?_
    obtain ⟨rfl, -⟩ := List.cons.inj hcons
    rcases hc with hc | rfl
    · exact not_sign_of_isAsciiDigit hc
    · decide
  rw [atFront?, hsign]
  dsimp only
  split
  · -- the word for infinity begins with a letter
    rename_i hcons
    obtain ⟨rfl, -⟩ := List.cons.inj hcons
    rcases hc with hc | hc
    · exact absurd hc (by decide)
    · exact absurd hc (by decide)
  · rw [hread]

/-- What is read is a literal at the front of the text. -/
theorem atFront?_sound {s rest : List Char} {l : NumberLiteral} (h : atFront? s = some (l, rest)) :
    ∃ p, s = p ++ rest ∧ Spells l p := by
  obtain ⟨g, hs, hg⟩ := sign_sound s
  rw [atFront?] at h
  dsimp only at h
  split at h
  · rename_i tail hbody
    cases h
    rw [hbody] at hs
    exact ⟨g ++ ['I', 'n', 'f', 'i', 'n', 'i', 't', 'y'], by rw [hs, List.append_assoc]; rfl, .infinity hg⟩
  · split at h
    · exact nomatch h
    · rename_i w f tail hread
      obtain ⟨m, hbody, hm⟩ := mantissa?_sound hread
      obtain ⟨x, htail, hx⟩ := exponent_sound tail
      cases h
      refine ⟨g ++ (m ++ x), ?_, .decimal hg hm hx⟩
      rw [List.append_assoc, List.append_assoc, ← htail, ← hbody, ← hs]

/-- Where a literal stands at the front of a text, this one or a longer one is read. -/
theorem atFront?_complete {l : NumberLiteral} {p : List Char} (h : Spells l p) (s : List Char) :
    atFront? (p ++ s) = some (l, s) ∨
      ∃ l' rest, atFront? (p ++ s) = some (l', rest) ∧ rest.length < s.length := by
  cases h with
  | @infinity negative g hg =>
    left
    rw [List.append_assoc]
    refine atFront?_infinity (sign_append hg fun c rest hcons => ?_)
    obtain ⟨rfl, -⟩ := List.cons.inj hcons
    decide
  | @decimal negative w f e g m x hg hm hx =>
    rw [List.append_assoc, List.append_assoc]
    rcases mantissa?_complete hm (x ++ s) with hread | ⟨⟨d, after, hcons, hd⟩, w', f', rest, hread, hlt⟩
    · have hread := atFront?_decimal hg hm.isNumeric hread
      rcases exponent_complete hx s with hexponent | hexponent
      · rw [hexponent] at hread
        exact .inl hread
      · exact .inr ⟨_, _, hread, hexponent⟩
    · -- an exponent does not begin like more digits
      right
      have hnil : x = [] := by
        cases hx with
        | absent => rfl
        | digits hletter _ _ _ =>
          obtain ⟨rfl, -⟩ := List.cons.inj hcons
          rcases hletter with rfl | rfl
          · exact absurd hd (by decide)
          · exact absurd hd (by decide)
      rw [hnil, List.nil_append] at hlt
      exact ⟨_, _, atFront?_decimal hg hm.isNumeric hread, (length_exponent_le rest).trans_lt hlt⟩

/-- A literal is read as a whole. -/
theorem Spells.atFront? {l : NumberLiteral} {p : List Char} (h : Spells l p) :
    NumberLiteral.atFront? p = some (l, []) := by
  rcases atFront?_complete h [] with hread | ⟨_, _, -, hlt⟩
  · rwa [List.append_nil] at hread
  · exact absurd hlt (Nat.not_lt_zero _)

/-- A text is one literal. -/
theorem Spells.unique {l l' : NumberLiteral} {p : List Char} (h : Spells l p) (h' : Spells l' p) : l = l' := by
  have heq := h.atFront?.symm.trans h'.atFront?
  cases heq
  rfl

/-- The longest literal at the front of a text is read. -/
theorem atFront?_eq_some_iff {s rest : List Char} {l : NumberLiteral} :
    atFront? s = some (l, rest) ↔ ∃ p, s = p ++ rest ∧ Longest s p l := by
  constructor
  · intro h
    obtain ⟨p, rfl, hp⟩ := atFront?_sound h
    refine ⟨p, rfl, List.prefix_append p rest, hp, fun p' l' hprefix hspells => ?_⟩
    obtain ⟨after, hafter⟩ := hprefix
    have hlength := congrArg List.length hafter
    rw [List.length_append, List.length_append] at hlength
    have hle : rest.length ≤ after.length := by
      rcases atFront?_complete hspells after with hread | ⟨_, _, hread, hlt⟩
      · rw [hafter, h] at hread
        cases hread
        exact Nat.le_refl _
      · rw [hafter, h] at hread
        cases hread
        exact hlt.le
    omega
  · rintro ⟨p, rfl, -, hp, hlongest⟩
    rcases atFront?_complete hp rest with hread | ⟨l', rest', hread, hlt⟩
    · exact hread
    · obtain ⟨p', hsplit, hp'⟩ := atFront?_sound hread
      have hle := hlongest p' l' ⟨rest', hsplit.symm⟩ hp'
      have hlength := congrArg List.length hsplit
      rw [List.length_append, List.length_append] at hlength
      omega

theorem longest_of_atFront? {p rest : List Char} {l : NumberLiteral}
    (h : NumberLiteral.atFront? (p ++ rest) = some (l, rest)) : Longest (p ++ rest) p l := by
  obtain ⟨p', hsplit, hp'⟩ := atFront?_eq_some_iff.1 h
  rwa [← List.append_cancel_right hsplit] at hp'

/-- None is read where no literal stands at the front. -/
theorem atFront?_eq_none_iff {s : List Char} :
    atFront? s = none ↔ ∀ p l, p <+: s → ¬ Spells l p := by
  constructor
  · rintro h p l ⟨rest, rfl⟩ hp
    rcases atFront?_complete hp rest with hread | ⟨_, _, hread, -⟩
    · exact nomatch h.symm.trans hread
    · exact nomatch h.symm.trans hread
  · intro h
    cases hread : atFront? s with
    | none => rfl
    | some found =>
      obtain ⟨p, rfl, hp⟩ := atFront?_sound hread
      exact absurd hp (h p _ (List.prefix_append _ _))

/-! ## What is left out -/

theorem exponent_eq_self_iff {s : List Char} :
    exponent s = (0, s) ↔ ∀ e x, x ≠ [] → x <+: s → ¬ SpellsExponent e x := by
  constructor
  · rintro h e x hne ⟨rest, rfl⟩ hx
    have hlength : (x ++ rest).length ≤ rest.length := by
      rcases exponent_complete hx rest with hread | hlt
      · rw [h] at hread
        exact (congrArg (fun r => r.2.length) hread).le
      · rw [h] at hlt
        exact hlt.le
    have hpos := List.length_pos_iff.2 hne
    rw [List.length_append] at hlength
    omega
  · intro h
    rw [exponent.eq_def]
    split
    · rename_i hread
      obtain ⟨x, hne, rfl, hx⟩ := exponent?_sound hread
      exact absurd hx (h _ x hne (List.prefix_append _ _))
    · rfl

/-- What begins like an exponent and is not complete does not belong to a literal. -/
theorem longest_of_incomplete {negative : Bool} {w f : List Nat} {g m : List Char} (hg : SpellsSign negative g)
    (hm : SpellsMantissa w f m) {c : Char} {tail : List Char} (hc : c = 'e' ∨ c = 'E')
    (h : ∀ e x, x ≠ [] → x <+: c :: tail → ¬ SpellsExponent e x) :
    Longest (g ++ (m ++ c :: tail)) (g ++ m) (.decimal negative w f 0) := by
  have hread : mantissa? (m ++ c :: tail) = some (w, f, c :: tail) := by
    rcases mantissa?_complete hm (c :: tail) with hread | ⟨⟨d, after, hcons, hd⟩, -⟩
    · exact hread
    · obtain ⟨rfl, -⟩ := List.cons.inj hcons
      rcases hc with rfl | rfl
      · exact absurd hd (by decide)
      · exact absurd hd (by decide)
  have hfront := atFront?_decimal hg hm.isNumeric hread
  rw [exponent_eq_self_iff.2 h] at hfront
  rw [← List.append_assoc] at hfront ⊢
  exact longest_of_atFront? hfront

theorem mantissa?_second_point {w f : List Nat} {m : List Char} (h : SpellsMantissa w f m) (hpoint : '.' ∈ m)
    (tail : List Char) : mantissa? (m ++ '.' :: tail) = some (w, f, '.' :: tail) := by
  have hend : digits ('.' :: tail) = ([], '.' :: tail) := rfl
  cases h with
  | whole hm _ => exact absurd (hm '.' hpoint) (by decide)
  | @point ds fs hds hne hfs =>
    have hdigits : digits (ds ++ '.' :: (fs ++ '.' :: tail)) = (digitValues ds, '.' :: (fs ++ '.' :: tail)) := by
      have hfirst : digits ('.' :: (fs ++ '.' :: tail)) = ([], '.' :: (fs ++ '.' :: tail)) := rfl
      rw [digits_append hds, hfirst, List.append_nil]
    have hread := mantissa?_point hdigits (digitValues_ne_nil hne)
    rw [digits_append hfs, hend, List.append_nil] at hread
    rw [List.append_assoc, List.cons_append]
    exact hread
  | @fraction fs hfs hne =>
    have hdigits := digits_append hfs ('.' :: tail)
    rw [hend, List.append_nil] at hdigits
    exact mantissa?_fraction hdigits (digitValues_ne_nil hne)

/-- A second point does not belong to a literal. -/
theorem longest_of_second_point {negative : Bool} {w f : List Nat} {g m : List Char}
    (hg : SpellsSign negative g) (hm : SpellsMantissa w f m) (hpoint : '.' ∈ m) (tail : List Char) :
    Longest (g ++ (m ++ '.' :: tail)) (g ++ m) (.decimal negative w f 0) := by
  have hfront := atFront?_decimal hg hm.isNumeric (mantissa?_second_point hm hpoint tail)
  have hnone : exponent ('.' :: tail) = (0, '.' :: tail) := rfl
  rw [hnone] at hfront
  rw [← List.append_assoc] at hfront ⊢
  exact longest_of_atFront? hfront

end RuleLabels.NumberLiteral
