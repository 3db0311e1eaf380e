import Mathlib.Data.List.Basic
import Mathlib.Tactic.Common
import RuleLabels.Proofs.Checked
import RuleLabels.Proofs.Condition.Nesting
import RuleLabels.Proofs.Json.Numbers
import RuleLabels.Proofs.Number.Literal

/-!
# The values that texts spell

The reader refuses integers with too many digits.  What it returns is therefore a value of JSON that has a text
unless its arrays are nested too deeply.

* `Value.IsSpelled`: the values of JSON with short integers;
* `ReadsSpelled`: what the readers of values, items and fields keep true, whatever their fuel;
* `isSpelled_of_read`: what is read is one of them;
* `Value.IsSpelled.isShort`: no text of them shows a long integer.
-/

namespace RuleLabels

open Text

/-- A value of JSON, and all integers in it are short enough to be written. -/
inductive Value.IsSpelled : Value → Prop
  | null : IsSpelled .null
  | bool (b : Bool) : IsSpelled (.bool b)
  | int {i : Int} (h : i.natAbs < digitBound) : IsSpelled (.int i)
  | float (x : Binary64) : IsSpelled (.float x)
  | text (s : String) : IsSpelled (.text s)
  | array {items : List Value} (h : ∀ v ∈ items, IsSpelled v) : IsSpelled (.array items)
  | object {fields : Fields} (h : ∀ f ∈ fields, IsSpelled f.2) : IsSpelled (.object fields)

namespace Value

theorem itemsAreShort_of_forall {items : List Value} (h : ∀ v ∈ items, v.isShort = true) :
    itemsAreShort items = true := by
  induction items with
  | nil => rfl
  | cons v rest ih =>
    obtain ⟨hv, hrest⟩ := List.forall_mem_cons.1 h
    rw [itemsAreShort, hv, ih hrest]
    rfl

theorem IsSpelled.isShort {v : Value} (h : v.IsSpelled) : v.isShort = true := by
  induction h with
  | null | bool _ | float _ | text _ => rfl
  | int h => exact decide_eq_true h
  | array _ ih => exact itemsAreShort_of_forall ih
  | object _ _ => rfl

/-- The fields of a spelled object are spelled. -/
theorem IsSpelled.of_get? {fields : Fields} (h : (Value.object fields).IsSpelled) {key : String} {v : Value}
    (hv : fields.get? key = some v) : v.IsSpelled := by
  cases h with
  | object h =>
    obtain ⟨before, after, rfl, -⟩ := List.lookup_eq_some_iff.1 hv
    exact h (key, v) (by simp)

end Value

namespace Json

open Value

/-! ## Numbers -/

theorem ofDigits_lt {ds : List Nat} (h : ∀ d ∈ ds, d < 10) : ofDigits 10 ds < 10 ^ ds.length := by
  induction ds using List.reverseRecOn with
  | nil => decide
  | append_singleton ds d ih =>
    have hd : d < 10 := h d (by simp)
    have hds := ih fun d' hd' => h d' (List.mem_append_left _ hd')
    have hlast : ofDigits 10 (ds ++ [d]) = ofDigits 10 ds * 10 + d := by
      rw [ofDigits_append, List.length_singleton, Nat.pow_one]
      exact congrArg _ (Nat.zero_add d)
    rw [hlast, List.length_append, List.length_singleton, Nat.pow_succ]
    omega

/-- The digits before the point are digits. -/
theorem lt_of_wholeDigits? {s rest : List Char} {ds : List Nat} (h : wholeDigits? s = some (ds, rest)) :
    ∀ d ∈ ds, d < 10 := by
  rw [wholeDigits?.eq_def] at h
  split at h
  · cases h
    decide
  · split at h
    · cases h
    · obtain ⟨cs, -, hcs, hvalues⟩ := NumberLiteral.digits_sound s
      rw [Option.some.inj h] at hvalues
      intro d hd
      rw [show ds = NumberLiteral.digitValues cs from hvalues] at hd
      obtain ⟨c, hc, rfl⟩ := List.mem_map.1 hd
      have hdigit := toNat_of_isDigit (hcs c hc)
      show c.toNat - 0x30 < 10
      omega

theorem lt_of_numeral? {s rest : List Char} {n : Numeral} {length : Nat}
    (h : numeral? s = some (n, length, rest)) : ∀ d ∈ n.whole, d < 10 := by
  rw [numeral?.eq_def] at h
  simp only [Option.bind_eq_bind, Option.bind_eq_some_iff, Option.pure_def] at h
  obtain ⟨⟨whole, tail⟩, hwhole, h⟩ := h
  have hn : n.whole = whole := by
    split at h
    · cases h
      rfl
    · cases h
      rfl
  rw [hn]
  exact lt_of_wholeDigits? hwhole

theorem isSpelled_of_numeral {n : Numeral} (hn : ∀ d ∈ n.whole, d < 10) {v : Value} (h : n.value = .ok v) :
    v.IsSpelled := by
  rw [Numeral.value] at h
  split at h
  · split at h
    · cases h
    · rename_i hshort
      have hlt := ofDigits_lt hn
      have hbound : ofDigits 10 n.whole < digitBound := by
        unfold digitBound
        exact hlt.trans_le (Nat.pow_le_pow_right (by decide) (Nat.le_of_not_lt hshort))
      cases h
      refine .int ?_
      split
      · rw [Int.natAbs_neg]
        exact hbound
      · exact hbound
  · cases h
    exact .float _

/-- A word or a number is read as a spelled value. -/
theorem isSpelled_of_scalar {c c' : Cursor} {v : Value} (h : scalar c = .ok (v, c')) : v.IsSpelled := by
  rw [scalar] at h
  split at h
  · rename_i w length hword
    cases h
    obtain ⟨w, hfind, hw⟩ := Option.map_eq_some_iff.1 hword
    have hall : ∀ w ∈ words, w.2.IsSpelled := by
      simp only [words, List.forall_mem_cons, List.not_mem_nil, false_imp_iff, forall_const, and_true]
      exact ⟨.null, .bool true, .bool false, .float _, .float _, .float _⟩
    cases hw
    exact hall w (List.mem_of_find?_eq_some hfind)
  · split at h
    · cases h
    · rename_i n length rest hread
      obtain ⟨w, hw, hpair⟩ := except_map_eq_ok.1 h
      cases hpair
      exact isSpelled_of_numeral (lt_of_numeral? hread) hw

/-! ## Objects -/

/-- What is put together of fields has values that were read. -/
theorem mem_of_mem_foldl_gather {done : Fields} (fields : Fields) (hfields : ∀ g ∈ fields, g ∈ done)
    (seen : List String) (kept : Fields) (hkept : ∀ f ∈ kept, ∃ g ∈ done, f.2 = g.2) {f : String × Value}
    (hf : f ∈ (fields.foldl (fun (seen, kept) f =>
      if seen.contains f.1 then (seen, kept)
      else (f.1 :: seen, (f.1, (done.lookup f.1).getD f.2) :: kept)) (seen, kept)).2) :
    ∃ g ∈ done, f.2 = g.2 := by
  induction fields generalizing seen kept with
  | nil => exact hkept f hf
  | cons g rest ih =>
    obtain ⟨hg, hrest⟩ := List.forall_mem_cons.1 hfields
    rw [List.foldl_cons] at hf
    dsimp only at hf
    by_cases hseen : seen.contains g.1 = true
    · rw [if_pos hseen] at hf
      exact ih hrest _ _ hkept hf
    · rw [if_neg hseen] at hf
      refine ih hrest _ _ (List.forall_mem_cons.2 ⟨?_, hkept⟩) hf
      cases hlookup : done.lookup g.1 with
      | none => exact ⟨g, hg, rfl⟩
      | some v =>
        obtain ⟨before, after, rfl, -⟩ := List.lookup_eq_some_iff.1 hlookup
        exact ⟨(g.1, v), List.mem_append_right _ List.mem_cons_self, rfl⟩

/-- The fields that are gathered have values that were read. -/
theorem mem_of_mem_gather {done : Fields} {f : String × Value} (hf : f ∈ gather done) :
    ∃ g ∈ done, f.2 = g.2 :=
  mem_of_mem_foldl_gather done.reverse (fun _ hg => List.mem_reverse.1 hg) [] [] (fun _ h => nomatch h)
    (List.mem_reverse.1 hf)

theorem isSpelled_gather {done : Fields} (h : ∀ f ∈ done, f.2.IsSpelled) :
    (Value.object (gather done)).IsSpelled := by
  refine .object fun f hf => ?_
  obtain ⟨g, hg, hvalue⟩ := mem_of_mem_gather hf
  rw [hvalue]
  exact h g hg

/-! ## Values -/

/-- What is read with some fuel is spelled, and an array or an object that is begun is when what was read of it is. -/
structure ReadsSpelled (fuel : Nat) : Prop where
  value : ∀ {room c v c'}, value fuel room c = .ok (v, c') → v.IsSpelled
  items : ∀ {room c done v c'}, (∀ d ∈ done, d.IsSpelled) → items fuel room c done = .ok (v, c') → v.IsSpelled
  members : ∀ {room c done v c'}, (∀ f ∈ done, f.2.IsSpelled) → members fuel room c done = .ok (v, c') → v.IsSpelled

section

variable {fuel room : Nat} {c c' : Cursor} {v : Value} (hfuel : ReadsSpelled fuel)

include hfuel

theorem ReadsSpelled.value_succ (h : Json.value (fuel + 1) room c = .ok (v, c')) : v.IsSpelled := by
  rw [Json.value.eq_def] at h
  dsimp only at h
  split at h
  · obtain ⟨s, -, hs⟩ := except_map_eq_ok.1 h
    cases hs
    exact .text _
  · split at h
    · cases h
    · split at h
      · cases h
        exact .array (List.forall_mem_nil _)
      · exact hfuel.items (List.forall_mem_nil _) h
  · split at h
    · cases h
    · split at h
      · cases h
        exact .object (List.forall_mem_nil _)
      · exact hfuel.members (List.forall_mem_nil _) h
  · exact isSpelled_of_scalar h

theorem ReadsSpelled.items_succ {done : List Value} (hdone : ∀ d ∈ done, d.IsSpelled)
    (h : Json.items (fuel + 1) room c done = .ok (v, c')) : v.IsSpelled := by
  rw [Json.items] at h
  split at h
  · cases h
  · rename_i w cursor hw
    have hdone : ∀ d ∈ w :: done, d.IsSpelled := List.forall_mem_cons.2 ⟨hfuel.value hw, hdone⟩
    dsimp only at h
    split at h
    · cases h
      exact .array fun d hd => hdone d (List.mem_reverse.1 hd)
    · exact hfuel.items hdone h
    · cases h

theorem ReadsSpelled.members_succ {done : Fields} (hdone : ∀ f ∈ done, f.2.IsSpelled)
    (h : Json.members (fuel + 1) room c done = .ok (v, c')) : v.IsSpelled := by
  rw [Json.members.eq_def] at h
  dsimp only at h
  split at h
  · split at h
    · cases h
    · split at h
      · split at h
        · cases h
        · rename_i w cursor hw
          have hdone : ∀ name, ∀ f ∈ (name, w) :: done, f.2.IsSpelled := fun name =>
            List.forall_mem_cons.2 ⟨hfuel.value hw, hdone⟩
          split at h
          · cases h
            exact isSpelled_gather (hdone _)
          · exact hfuel.members (hdone _) h
          · cases h
      · cases h
  · cases h

end

theorem readsSpelled (fuel : Nat) : ReadsSpelled fuel := by
  induction fuel with
  | zero => exact ⟨nofun, nofun, nofun⟩
  | succ fuel ih => exact ⟨ih.value_succ, ih.items_succ, ih.members_succ⟩

/-- What a text is read as is a value of JSON with short integers. -/
theorem isSpelled_of_read {s : String} {v : Value} (h : read s = .ok v) : v.IsSpelled := by
  rw [read] at h
  split at h
  · cases h
  · split at h
    · cases h
    · rename_i w c hw
      dsimp only at h
      split at h
      · cases h
        exact (readsSpelled _).value hw
      · cases h

end Json

end RuleLabels
