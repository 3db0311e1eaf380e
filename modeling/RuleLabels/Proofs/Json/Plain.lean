import Mathlib.Tactic.Common
import RuleLabels.Proofs.Text.Whole

/-!
# Values of JSON

The values that a JSON text can spell, with whole texts and integers that have one: such a value can be
written for any purpose that sets no limit to its depth, and there are no halves in it to be joined.
-/

namespace RuleLabels

open Json Text

namespace Value

mutual

/-- A value of JSON, with whole texts and with integers that are short enough to be written. -/
def isJson : Value → Bool
  | null | bool _ | float _ => true
  | int i => i.natAbs < digitBound
  | text s => isWhole s
  | array items => itemsAreJson items
  | object fields => fieldsAreJson fields
  | _ => false

/-- All items of an array are values of JSON. -/
def itemsAreJson : List Value → Bool
  | [] => true
  | v :: rest => v.isJson && itemsAreJson rest

/-- All fields of an object have whole names and values of JSON. -/
def fieldsAreJson : List (String × Value) → Bool
  | [] => true
  | (k, v) :: rest => isWhole k && v.isJson && fieldsAreJson rest

end

/-! ## Writing -/

theorem stringRefusal?_of_isWhole {s : String} (h : isWhole s = true) (p : Purpose) (before : Nat) :
    stringRefusal? p before s = none := by
  rw [stringRefusal?, encodeError?_of_isWhole (isWhole_writtenString h)]
  split <;> rfl

mutual

theorem refusalAt?_of_isJson {p : Purpose} (hp : p.maxDepth = none) :
    ∀ (depth before : Nat) {v : Value}, v.isJson = true → refusalAt? p depth before v = none
  | _, _, null, _ | _, _, bool _, _ | _, _, float _, _ => by rw [refusalAt?]
  | _, _, int i, h => by
    rw [isJson, decide_eq_true_eq] at h
    rw [refusalAt?, if_pos h]
  | _, before, text s, h => by
    rw [refusalAt?]
    exact stringRefusal?_of_isWhole h p before
  | depth, _, array items, h => by
    have hfull : p.isFull depth = false := by rw [Purpose.isFull, hp]; rfl
    rw [refusalAt?, hfull]
    exact itemRefusal?_of_isJson hp (depth + 1) h
  | depth, _, object fields, h => by
    have hfull : p.isFull depth = false := by rw [Purpose.isFull, hp]; rfl
    rw [refusalAt?, hfull]
    exact fieldRefusal?_of_isJson hp (depth + 1) h
  | _, _, moment _, h | _, _, date _, h | _, _, bytes _, h | _, _, tuple _, h | _, _, set _, h
  | _, _, mapping _, h | _, _, looped _ _, h => nomatch h

theorem itemRefusal?_of_isJson {p : Purpose} (hp : p.maxDepth = none) :
    ∀ (depth : Nat) {items : List Value}, itemsAreJson items = true → itemRefusal? p depth items = none
  | _, [], _ => rfl
  | depth, v :: rest, h => by
    rw [itemsAreJson, Bool.and_eq_true] at h
    rw [itemRefusal?, refusalAt?_of_isJson hp depth _ h.1]
    exact itemRefusal?_of_isJson hp depth h.2

theorem fieldRefusal?_of_isJson {p : Purpose} (hp : p.maxDepth = none) :
    ∀ (depth : Nat) {fields : List (String × Value)}, fieldsAreJson fields = true →
      fieldRefusal? p depth fields = none
  | _, [], _ => rfl
  | depth, (k, v) :: rest, h => by
    rw [fieldsAreJson, Bool.and_eq_true, Bool.and_eq_true] at h
    rw [fieldRefusal?, stringRefusal?_of_isWhole h.1.1, refusalAt?_of_isJson hp depth _ h.1.2]
    exact fieldRefusal?_of_isJson hp depth h.2

end

/-- Values of JSON can be written for any purpose without a limit to their depth. -/
theorem refusal?_of_isJson {p : Purpose} (hp : p.maxDepth = none) {v : Value} (h : v.isJson = true) :
    Json.refusal? p v = none := refusalAt?_of_isJson hp 0 0 h

/-! ## Halves -/

mutual

theorem joinedHalves_of_isJson : ∀ {v : Value}, v.isJson = true → Json.joinedHalves v = v
  | null, _ | bool _, _ | float _, _ | int _, _ => rfl
  | text s, h => by rw [Json.joinedHalves, Text.joinedHalves_of_isWhole h]
  | array items, h => by rw [Json.joinedHalves, joinedItems_of_isJson h]
  | object fields, h => by rw [Json.joinedHalves, joinedFields_of_isJson h]
  | moment _, h | date _, h | bytes _, h | tuple _, h | set _, h | mapping _, h | looped _ _, h => nomatch h

theorem joinedItems_of_isJson : ∀ {items : List Value}, itemsAreJson items = true →
    joinedItems items = items
  | [], _ => rfl
  | v :: rest, h => by
    rw [itemsAreJson, Bool.and_eq_true] at h
    rw [joinedItems, joinedHalves_of_isJson h.1, joinedItems_of_isJson h.2]

theorem joinedFields_of_isJson : ∀ {fields : List (String × Value)}, fieldsAreJson fields = true →
    joinedFields fields = fields
  | [], _ => rfl
  | (k, v) :: rest, h => by
    rw [fieldsAreJson, Bool.and_eq_true, Bool.and_eq_true] at h
    rw [joinedFields, Text.joinedHalves_of_isWhole h.1.1, joinedHalves_of_isJson h.1.2,
      joinedFields_of_isJson h.2]

end

/-! ## Lists -/

theorem itemsAreJson_iff {items : List Value} :
    itemsAreJson items = true ↔ ∀ v ∈ items, v.isJson = true := by
  induction items with
  | nil => simp [itemsAreJson]
  | cons v rest ih => rw [itemsAreJson, Bool.and_eq_true, ih, List.forall_mem_cons]

end Value

end RuleLabels
