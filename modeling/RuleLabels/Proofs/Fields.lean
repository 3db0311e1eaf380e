import Mathlib.Tactic.Common
import RuleLabels.Value.Key

/-!
# Fields that are set

To set a field of an object gives this field its value and leaves all others as they are, whether the object is
made of fields or of entries with names of any kind.

* `Fields.get?_set`: what is found in the fields of an object after one was set;
* `Value.get?_textEntries_putEntry`: what is found in entries after one was put in.
-/

namespace RuleLabels

namespace Fields

theorem get?_cons (f : String × Value) (fields : Fields) (name : String) :
    Fields.get? (f :: fields) name = if name = f.1 then some f.2 else fields.get? name := by
  unfold get?
  rw [List.lookup_cons]
  by_cases h : name = f.1
  · rw [if_pos h, beq_iff_eq.2 h]
  · rw [if_neg h, beq_eq_false_iff_ne.2 h]

theorem get?_single (key : String) (v : Value) (name : String) :
    Fields.get? [(key, v)] name = if name = key then some v else none :=
  get?_cons (key, v) [] name

/-- The value in every field of one name may be replaced. -/
theorem get?_map_replace (fields : Fields) (key : String) (v : Value) (name : String) :
    Fields.get? (fields.map fun f => if f.1 = key then (key, v) else f) name =
      if name = key then (fields.get? name).map (fun _ => v) else fields.get? name := by
  induction fields with
  | nil => simp [get?]
  | cons f rest ih =>
    rw [List.map_cons, get?_cons, get?_cons, ih]
    by_cases hf : f.1 = key
    · rw [if_pos hf, hf]
      by_cases hname : name = key
      · simp only [if_pos hname, Option.map_some]
      · simp only [if_neg hname]
    · rw [if_neg hf]
      by_cases hname : name = key
      · have hne : ¬ name = f.1 := fun h => hf (h.symm.trans hname)
        rw [if_neg hne, if_neg hne]
      · rw [if_neg hname, if_neg hname]

/-- A field that is set has its new value, and the others are as before. -/
theorem get?_set (fields : Fields) (key : String) (v : Value) (name : String) :
    (fields.set key v).get? name = if name = key then some v else fields.get? name := by
  unfold set
  by_cases hkey : fields.has key = true
  · rw [if_pos hkey, get?_map_replace]
    by_cases hname : name = key
    · obtain ⟨w, hw⟩ := Option.isSome_iff_exists.1 hkey
      rw [if_pos hname, if_pos hname, hname, hw, Option.map_some]
    · rw [if_neg hname, if_neg hname]
  · have hnone : fields.get? key = none := Option.not_isSome_iff_eq_none.1 hkey
    rw [if_neg hkey, get?, List.lookup_append]
    by_cases hname : name = key
    · rw [if_pos hname, hname, ← get?, hnone, Option.none_or]
      simp
    · rw [if_neg hname, List.lookup_cons, beq_eq_false_iff_ne.2 hname, List.lookup_nil, Option.or_none, get?]

/-- Whether a field is there depends on what is found under its name. -/
theorem present?_congr {fields fields' : Fields} {name : String} (h : fields'.get? name = fields.get? name) :
    fields'.present? name = fields.present? name := by
  unfold present?
  rw [h]

end Fields

namespace Value

/-- A text names the same entry as no other value. -/
theorem sameKey_text_iff {k : Value} {s : String} : k.sameKey (.text s) = true ↔ k = .text s := by
  cases k with
  | text t => simp [sameKey]
  | float x => simp [sameKey, amount?]
  | _ => exact ⟨nofun, nofun⟩

/-- An entry whose name is no text is none of the fields. -/
theorem textEntries_cons_of_ne {k w : Value} {entries : List (Value × Value)} (hk : ∀ s, k ≠ .text s) :
    textEntries ((k, w) :: entries) = textEntries entries := by
  cases k with
  | text s => exact absurd rfl (hk s)
  | _ => rfl

/-- An entry that is put in under a text has its new value, and the fields of other names are as before. -/
theorem get?_textEntries_putEntry (entries : List (Value × Value)) (key : String) (v : Value) (name : String) :
    Fields.get? (textEntries (putEntry (.text key) v entries)) name =
      if name = key then some v else Fields.get? (textEntries entries) name := by
  induction entries with
  | nil => exact Fields.get?_cons (key, v) [] name
  | cons entry rest ih =>
    obtain ⟨k, w⟩ := entry
    unfold putEntry
    by_cases hk : k = .text key
    · rw [if_pos (sameKey_text_iff.2 hk), hk, textEntries, textEntries, Fields.get?_cons, Fields.get?_cons]
      by_cases hname : name = key
      · rw [if_pos hname, if_pos hname]
      · rw [if_neg hname, if_neg hname, if_neg hname]
    · rw [if_neg fun h => hk (sameKey_text_iff.1 h)]
      by_cases htext : ∃ s, k = .text s
      · obtain ⟨s, rfl⟩ := htext
        rw [textEntries, textEntries, Fields.get?_cons, Fields.get?_cons, ih]
        by_cases hname : name = key
        · have hne : ¬ name = s := fun h => hk (congrArg text (h.symm.trans hname))
          rw [if_pos hname, if_neg hne, if_pos hname]
        · rw [if_neg hname, if_neg hname]
      · have hne : ∀ s, k ≠ .text s := fun s h => htext ⟨s, h⟩
        rw [textEntries_cons_of_ne hne, textEntries_cons_of_ne hne, ih]

end Value

end RuleLabels
