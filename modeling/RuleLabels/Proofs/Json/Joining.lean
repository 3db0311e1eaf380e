import Mathlib.Tactic.Common
import RuleLabels.Proofs.Json.Strings

/-!
# Halves that were joined

Texts in which halves were joined have none that are left to be joined, unless two halves made a private character
that stands for a half itself.  A clear text has no half of such a character.

* `Text.joinedHalves_joinedHalves` and `Value.joinedHalves_joinedHalves`: to join halves twice is to join them once.
-/

namespace RuleLabels

open Text Json

/-! ## Texts -/

namespace Text

/-- A character that is not the first half of a character that stands for a half. -/
def isClearChar (c : Char) : Bool := halfCode? c != some 0xDBFC && halfCode? c != some 0xDBFD

/-- A text without first halves of characters that stand for halves. -/
def isClear (s : String) : Bool := s.toList.all isClearChar

/-- Two halves of which the first is clear make no half. -/
theorem halfCode?_joined {c : Char} {m n : Nat} (hc : halfCode? c = some m) (hclear : isClearChar c = true)
    (hm : isHighHalf m = true) (hn : isLowHalf n = true) : halfCode? (joined m n) = none := by
  unfold isClearChar at hclear
  rw [hc] at hclear
  unfold halfCode?
  rw [toNat_joined hm hn]
  simp only [isHighHalf, isLowHalf, Bool.and_eq_true, decide_eq_true_eq, bne_iff_ne, ne_eq, Option.some.injEq]
    at hm hn hclear
  refine if_neg ?_
  rw [firstHalf, Bool.and_eq_true, decide_eq_true_eq, decide_eq_true_eq]
  omega

/-- What keeps a half before it apart does so with its halves joined. -/
theorem keepsApart_joinHalves {cs : List Char} (hclear : ∀ c ∈ cs, isClearChar c = true) (h : KeepsApart cs) :
    KeepsApart (joinHalves cs) := by
  fun_cases joinHalves cs with
  | case1 c d rest n m hd hc hmn =>
    rw [Bool.and_eq_true] at hmn
    intro d' rest' n' hcons hn'
    obtain ⟨rfl, -⟩ := List.cons.inj hcons
    rw [halfCode?_joined hc (hclear c List.mem_cons_self) hmn.1 hmn.2] at hn'
    cases hn'
  | case2 c d rest n m hd hc hmn =>
    intro d' rest' n' hcons hn'
    obtain ⟨rfl, -⟩ := List.cons.inj hcons
    exact h c (d :: rest) n' rfl hn'
  | case3 c d rest hcd =>
    intro d' rest' n' hcons hn'
    obtain ⟨rfl, -⟩ := List.cons.inj hcons
    exact h c (d :: rest) n' rfl hn'
  | case4 hs => exact h

theorem joinHalves_joinHalves {cs : List Char} (hclear : ∀ c ∈ cs, isClearChar c = true) :
    joinHalves (joinHalves cs) = joinHalves cs := by
  fun_induction joinHalves cs with
  | case1 c d rest n m hd hc hmn ih =>
    rw [Bool.and_eq_true] at hmn
    have hnone := halfCode?_joined hc (hclear c List.mem_cons_self) hmn.1 hmn.2
    have hrest : ∀ c' ∈ rest, isClearChar c' = true :=
      fun c' hc' => hclear c' (List.mem_cons_of_mem _ (List.mem_cons_of_mem _ hc'))
    have hapart : ∀ m', halfCode? (joined n m) = some m' → isHighHalf m' = true →
        KeepsApart (joinHalves rest) := by
      intro m' hm'
      cases hnone.symm.trans hm'
    rw [joinHalves_cons hapart, ih hrest]
  | case2 c d rest n m hd hc hmn ih =>
    have hrest : ∀ c' ∈ d :: rest, isClearChar c' = true := fun c' hc' => hclear c' (List.mem_cons_of_mem _ hc')
    have hapart : ∀ m', halfCode? c = some m' → isHighHalf m' = true → KeepsApart (d :: rest) := by
      intro m' hm' hhigh d' rest' n' hcons hn'
      obtain ⟨rfl, -⟩ := List.cons.inj hcons
      cases hc.symm.trans hm'
      cases hd.symm.trans hn'
      rw [hhigh, Bool.true_and] at hmn
      exact Bool.eq_false_iff.2 hmn
    rw [joinHalves_cons fun m' hm' hhigh => keepsApart_joinHalves hrest (hapart m' hm' hhigh), ih hrest]
  | case3 c d rest hcd ih =>
    have hrest : ∀ c' ∈ d :: rest, isClearChar c' = true := fun c' hc' => hclear c' (List.mem_cons_of_mem _ hc')
    have hapart : ∀ m', halfCode? c = some m' → isHighHalf m' = true → KeepsApart (d :: rest) := by
      intro m' hm' _ d' rest' n' hcons hn'
      obtain ⟨rfl, -⟩ := List.cons.inj hcons
      exact absurd hn' (hcd m' n' hm')
    rw [joinHalves_cons fun m' hm' hhigh => keepsApart_joinHalves hrest (hapart m' hm' hhigh), ih hrest]
  | case4 s hs =>
    rw [joinHalves]
    exact hs

/-- To join the halves of a clear text twice is to join them once. -/
theorem joinedHalves_joinedHalves {s : String} (h : isClear s = true) :
    joinedHalves (joinedHalves s) = joinedHalves s := by
  by_cases hhalf : s.toList.any isHalf = true
  · have hjoined : joinedHalves s = String.ofList (joinHalves s.toList) := if_pos hhalf
    rw [hjoined]
    unfold joinedHalves
    rw [String.toList_ofList, joinHalves_joinHalves (List.all_eq_true.1 h), ite_self]
  · have hkept : joinedHalves s = s := if_neg hhalf
    rw [hkept, hkept]

end Text

/-! ## Values -/

namespace Value

mutual

/-- All texts of a value are clear. -/
def isClear : Value → Bool
  | text s => Text.isClear s
  | array items => itemsAreClear items
  | object fields => fieldsAreClear fields
  | _ => true

/-- All texts of items are clear. -/
def itemsAreClear : List Value → Bool
  | [] => true
  | v :: rest => v.isClear && itemsAreClear rest

/-- All names and texts of fields are clear. -/
def fieldsAreClear : List (String × Value) → Bool
  | [] => true
  | (k, v) :: rest => Text.isClear k && v.isClear && fieldsAreClear rest

end

mutual

/-- To join the halves of a clear value twice is to join them once. -/
theorem joinedHalves_joinedHalves : ∀ {v : Value}, v.isClear = true →
    Json.joinedHalves (Json.joinedHalves v) = Json.joinedHalves v
  | text s, h => by
    rw [Json.joinedHalves, Json.joinedHalves, Text.joinedHalves_joinedHalves h]
  | array items, h => by
    rw [Json.joinedHalves, Json.joinedHalves, joinedItems_joinedItems h]
  | object fields, h => by
    rw [Json.joinedHalves, Json.joinedHalves, joinedFields_joinedFields h]
  | null, _ | bool _, _ | int _, _ | float _, _ | moment _, _ | date _, _ | bytes _, _ | tuple _, _
  | set _, _ | mapping _, _ | looped _ _, _ => rfl

theorem joinedItems_joinedItems : ∀ {items : List Value}, itemsAreClear items = true →
    joinedItems (joinedItems items) = joinedItems items
  | [], _ => rfl
  | v :: rest, h => by
    rw [itemsAreClear, Bool.and_eq_true] at h
    rw [joinedItems, joinedItems, joinedHalves_joinedHalves h.1, joinedItems_joinedItems h.2]

theorem joinedFields_joinedFields : ∀ {fields : List (String × Value)}, fieldsAreClear fields = true →
    joinedFields (joinedFields fields) = joinedFields fields
  | [], _ => rfl
  | (k, v) :: rest, h => by
    rw [fieldsAreClear, Bool.and_eq_true, Bool.and_eq_true] at h
    rw [joinedFields, joinedFields, Text.joinedHalves_joinedHalves h.1.1, joinedHalves_joinedHalves h.1.2,
      joinedFields_joinedFields h.2]

end

end Value

end RuleLabels
