import Mathlib.Data.List.Forall2
import Mathlib.Tactic.Common
import RuleLabels.Proofs.Rule.Edit
import RuleLabels.Proofs.Rule.Faults

/-!
# What is found at the place of a fault

Whoever follows the steps of a place from the root of a document finds what the fault there says: a value that
breaks the named check, or an object without the named field.

* `Value.reach?` follows steps into a document, and `Value.HasFault` says what is found at the end of them;
* `Value.HasFault.under`: the faults of what steps lead to;
* `Value.breaks_of_readPriority` and its like: each check of a value finds fault with values that break it;
* `Fields.faultOf_readRequired` and its like: so do the checks of fields, where the field is there.
-/

namespace RuleLabels

/-! ## Following steps -/

namespace Value

/-- The value that a step leads to. -/
def child? (v : Value) : Step → Option Value
  | .field name => v.fields?.bind fun fields => Fields.get? fields name
  | .index i => v.items?.bind fun items => items[i]?

/-- The value that steps lead to, one after the other. -/
def reach? (v : Value) : List Step → Option Value
  | [] => some v
  | step :: rest => (v.child? step).bind fun w => w.reach? rest

theorem reach?_append (v : Value) (steps rest : List Step) :
    v.reach? (steps ++ rest) = (v.reach? steps).bind fun w => w.reach? rest := by
  induction steps generalizing v with
  | nil => rfl
  | cons step steps ih =>
    rw [List.cons_append, reach?, reach?]
    cases v.child? step with
    | none => rfl
    | some w => exact ih w

theorem reach?_field {v : Value} {fields : Fields} {name : String} {w : Value} (hf : v.fields? = some fields)
    (hw : fields.get? name = some w) : v.reach? [.field name] = some w := by
  simp [reach?, child?, hf, hw]

theorem reach?_index {v : Value} {items : List Value} {i : Nat} {w : Value} (hi : v.items? = some items)
    (hw : items[i]? = some w) : v.reach? [.index i] = some w := by
  simp [reach?, child?, hi, hw]

/-- Where steps lead somewhere, so do the first of them. -/
theorem isSome_reach?_of_append {v : Value} {steps rest : List Step}
    (h : (v.reach? (steps ++ rest)).isSome = true) : (v.reach? steps).isSome = true := by
  rw [reach?_append] at h
  cases hs : v.reach? steps with
  | none =>
    rw [hs] at h
    exact h
  | some w => rfl

/-! ## Broken checks -/

/-- A text with more than blanks. -/
def IsName (v : Value) : Prop := ∃ s, v = .text s ∧ Text.allBlank s = false

/-- What an identifier may be: no switch and no collection, and with a text of more than blanks. -/
structure IsIdentifier (v : Value) : Prop where
  notSwitch : ∀ b, v ≠ .bool b
  notArray : v.items? = none
  notObject : v.fields? = none
  nonBlank : Text.allBlank v.asText = false

/-- An integer, a float without a fraction, or the text of an integer. -/
def IsInteger (v : Value) : Prop :=
  (∃ i, v = .int i) ∨ (∃ x i, v = .float x ∧ x.toInt? = some i) ∨
    ∃ s i, v = .text s ∧ readInteger (Text.trim s) = .ok i

/-- The name of a way in which groups join their members, in any letter case. -/
def IsJunction (v : Value) : Prop :=
  ∃ word operator, v = .text word ∧ operator ∈ Junction.operators.map Prod.fst ∧
    word.toList.map Char.toUpper = operator.toList

/-- A value breaks the check that a fault is worded for. -/
def Breaks (v : Value) : Fault → Prop
  | .notAnObject kind => v.fields? = none ∧ kind = v.kind
  | .unknownNodeType w => w = v ∧ v.isNull = false ∧ v ≠ .text "condition" ∧ v ≠ .text "group"
  | .undecidedNodeType => ∃ fields, v.fields? = some fields ∧ Tree.Untyped fields ∧
      fields.has "key" = false ∧ fields.has "conditions" = false ∧ fields.has "children" = false
  | .unknownComparison w => w = v ∧ ∀ operator ∈ Comparison.operators.map Prod.fst, v ≠ .text operator
  | .unknownJunction w => w = v ∧ ¬ v.IsJunction
  | .notAScalar => v.items?.isSome = true ∨ v.fields?.isSome = true
  | .notAnArray kind => v.items? = none ∧ kind = v.kind
  | .emptyGroup => v.items? = some []
  | .boolForInteger => ∃ b, v = .bool b
  | .notAnInteger w => w = v ∧ ¬ v.IsInteger
  | .notABoolean kind => (∀ b, v ≠ .bool b) ∧ kind = v.kind
  | .badTimestamp s => v = .text s ∧ Text.allBlank s = false ∧ Iso.moment? s = none
  | .notATimestamp kind => ¬ v.IsName ∧ (∀ m, v ≠ .moment m) ∧ kind = v.kind
  | .notAListOfRules kind => v.items? = none ∧ kind = v.kind
  | .longInteger => v.hasText = false
  | _ => False

/-- A written rule has a text as its identifier, or another value with this text. -/
def WritesId (v : Value) (id : String) : Prop :=
  (v.fields?.bind fun fields => Fields.get? fields "id").map asText = some id

/-- What is found at the end of the steps to a fault, where it is known which identifiers written rules have. -/
inductive HasFault (named : Value → String → Prop) (v : Value) : List Step → Fault → Prop where
  /-- A value that breaks the check. -/
  | breaks {steps : List Step} {w : Value} {fault : Fault} :
    v.reach? steps = some w → w.Breaks fault → HasFault named v steps fault
  /-- An object in which the field is missing or null. -/
  | lacks {steps : List Step} {w : Value} {fields : Fields} {name : String} :
    v.reach? steps = some w → w.fields? = some fields → fields.present? name = none →
      HasFault named v (steps ++ [.field name]) .missing
  /-- A value that is no text, or a blank one, where a name or a label is to be. -/
  | notAName {steps : List Step} {name : String} {w : Value} :
    name ∈ ["name", "label", "key"] → v.reach? (steps ++ [.field name]) = some w → ¬ w.IsName →
      HasFault named v (steps ++ [.field name]) .blankText
  /-- A value that no identifier may be. -/
  | notAnId {steps : List Step} {w : Value} :
    v.reach? (steps ++ [.field "id"]) = some w → ¬ w.IsIdentifier →
      HasFault named v (steps ++ [.field "id"]) .blankText
  /-- The identifier of the later of two rules with the same one, where no rule before repeats one. -/
  | repeats {steps : List Step} {w m : Value} {before after : List Value} {ids : List String} {id : String} :
    v.reach? steps = some w → w.items? = some (before ++ m :: after) → before.Forall₂ named ids →
      ids.Nodup → id ∈ ids → named m id →
        HasFault named v (steps ++ [.index before.length, .field "id"]) (.duplicateId id)

variable {named : Value → String → Prop}

/-- A fault of a value is one of the document in which steps lead to the value. -/
theorem HasFault.under {v w : Value} {steps rest : List Step} {fault : Fault} (hw : v.reach? steps = some w)
    (h : w.HasFault named rest fault) : v.HasFault named (steps ++ rest) fault := by
  have hreach (rest : List Step) : v.reach? (steps ++ rest) = w.reach? rest := by
    rw [reach?_append, hw]
    rfl
  cases h with
  | breaks hr hb => exact .breaks (hreach _ ▸ hr) hb
  | lacks hr hf hn =>
    rw [← List.append_assoc]
    exact .lacks (hreach _ ▸ hr) hf hn
  | notAName hname hr hn =>
    rw [← List.append_assoc]
    refine .notAName hname ?_ hn
    rw [List.append_assoc, hreach]
    exact hr
  | notAnId hr hn =>
    rw [← List.append_assoc]
    refine .notAnId ?_ hn
    rw [List.append_assoc, hreach]
    exact hr
  | repeats hr hi hids hnodup hmem hid =>
    rw [← List.append_assoc]
    exact .repeats (hreach _ ▸ hr) hi hids hnodup hmem hid

/-- All steps to a fault but the last one lead to values of the document. -/
theorem HasFault.isSome_reach?_dropLast {v : Value} {steps : List Step} {fault : Fault}
    (h : v.HasFault named steps fault) : (v.reach? steps.dropLast).isSome = true := by
  have hinit {steps : List Step} {w : Value} (hw : v.reach? steps = some w) :
      (v.reach? steps.dropLast).isSome = true := by
    rcases List.eq_nil_or_concat steps with rfl | ⟨init, last, rfl⟩
    · rfl
    · rw [List.concat_eq_append] at hw ⊢
      rw [List.dropLast_concat]
      exact isSome_reach?_of_append (by rw [hw]; rfl)
  cases h with
  | breaks hr _ => exact hinit hr
  | lacks hr _ _ =>
    rw [List.dropLast_concat, hr]
    rfl
  | notAName _ hr _ => exact hinit hr
  | notAnId hr _ => exact hinit hr
  | @repeats steps w m before after ids id hr hi _ _ _ _ =>
    have hm : w.reach? [.index before.length] = some m := reach?_index hi (by simp)
    have hsteps : (steps ++ [Step.index before.length, .field "id"]).dropLast =
        steps ++ [.index before.length] := by simp
    rw [hsteps, reach?_append, hr, Option.bind_some, hm]
    rfl

end Value

/-! ## Checks of single values -/

theorem faultOf_eq_some_iff {α : Type} {check : Path → Checked α} {fault : Fault} :
    faultOf check = some fault ↔ ∃ e, check .here = .error e ∧ e.fault = fault := by
  rw [faultOf]
  cases check .here with
  | error e => simp
  | ok a => simp

namespace Value

theorem fault_of_nonBlank {v : Value} {fault : Fault} (h : faultOf v.nonBlank = some fault) :
    fault = .blankText ∧ ¬ v.IsName := by
  obtain ⟨e, he, rfl⟩ := faultOf_eq_some_iff.1 h
  rw [nonBlank.eq_def] at he
  split at he
  · rename_i s
    split at he
    · rename_i hblank
      cases he
      refine ⟨rfl, ?_⟩
      rintro ⟨_, hs, hnot⟩
      cases hs
      rw [hblank] at hnot
      cases hnot
    · cases he
  · rename_i hv
    cases he
    refine ⟨rfl, ?_⟩
    rintro ⟨s, hs, -⟩
    exact hv s hs

theorem fault_of_readId {v : Value} {fault : Fault} (h : faultOf v.readId = some fault) :
    fault = .blankText ∧ ¬ v.IsIdentifier ∨ fault = .longInteger ∧ v.hasText = false := by
  obtain ⟨e, he, rfl⟩ := faultOf_eq_some_iff.1 h
  rw [readId.eq_def] at he
  split at he
  · rename_i b
    cases he
    exact .inl ⟨rfl, fun hid => hid.notSwitch b rfl⟩
  · split at he
    · rename_i hcollection
      cases he
      refine .inl ⟨rfl, fun hid => ?_⟩
      rw [hid.notArray, hid.notObject] at hcollection
      cases hcollection
    · split at he
      · rename_i htext
        cases he
        exact .inr ⟨rfl, by simpa using htext⟩
      · split at he
        · rename_i hblank
          cases he
          refine .inl ⟨rfl, fun hid => ?_⟩
          rw [hid.nonBlank] at hblank
          cases hblank
        · cases he

theorem breaks_of_readPriority {v : Value} {fault : Fault} (h : faultOf v.readPriority = some fault) :
    v.Breaks fault := by
  obtain ⟨e, he, rfl⟩ := faultOf_eq_some_iff.1 h
  rw [readPriority.eq_def] at he
  split at he
  · rename_i b
    cases he
    exact ⟨b, rfl⟩
  · cases he
  · rename_i x
    split at he
    · cases he
    · rename_i hx
      cases he
      refine ⟨rfl, ?_⟩
      rintro (⟨i, hi⟩ | ⟨y, i, hy, hi⟩ | ⟨s, i, hs, -⟩)
      · cases hi
      · cases hy
        rw [hx] at hi
        cases hi
      · cases hs
  · rename_i s
    split at he
    · cases he
    · rename_i hs
      cases he
      refine ⟨rfl, ?_⟩
      rintro (⟨i, hi⟩ | ⟨y, i, hy, -⟩ | ⟨t, i, ht, hi⟩)
      · cases hi
      · cases hy
      · cases ht
        rw [hs] at hi
        cases hi
  · rename_i hbool hint hfloat htext
    rw [refuseShown] at he
    split at he
    · cases he
      refine ⟨rfl, ?_⟩
      rintro (⟨i, hi⟩ | ⟨y, i, hy, -⟩ | ⟨t, i, ht, -⟩)
      · exact hint i hi
      · exact hfloat y hy
      · exact htext t ht
    · rename_i hlong
      cases he
      simpa [Breaks] using hlong

theorem breaks_of_readEnabled {v : Value} {fault : Fault} (h : faultOf v.readEnabled = some fault) :
    v.Breaks fault := by
  obtain ⟨e, he, rfl⟩ := faultOf_eq_some_iff.1 h
  rw [readEnabled.eq_def] at he
  split at he
  · cases he
  · rename_i hv
    cases he
    exact ⟨hv, rfl⟩

theorem breaks_of_readTimestamp {v : Value} {fault : Fault} (h : faultOf v.readTimestamp = some fault) :
    v.Breaks fault := by
  obtain ⟨e, he, rfl⟩ := faultOf_eq_some_iff.1 h
  rw [readTimestamp.eq_def] at he
  split at he
  · cases he
  · rename_i s
    split at he
    · rename_i hblank
      cases he
      refine ⟨?_, fun m hm => ?_, rfl⟩
      · rintro ⟨t, ht, hnot⟩
        cases ht
        rw [hblank] at hnot
        cases hnot
      · cases hm
    · rename_i hblank
      split at he
      · cases he
      · rename_i hs
        cases he
        exact ⟨rfl, by simpa using hblank, hs⟩
  · rename_i hmoment htext
    cases he
    refine ⟨?_, hmoment, rfl⟩
    rintro ⟨s, hs, -⟩
    exact htext s hs

end Value

namespace Tree

open Value

/-- A rejected value is shown, or it cannot be. -/
theorem breaks_shownFault {fault : Value → Fault} {v : Value} (h : v.Breaks (fault v)) :
    v.Breaks (shownFault fault v) := by
  rw [shownFault]
  split
  · exact h
  · rename_i hlong
    simpa [Breaks] using hlong

theorem breaks_of_readComparison {v : Value} {fault : Fault} (h : faultOf (readComparison v) = some fault) :
    v.Breaks fault := by
  obtain ⟨e, he, rfl⟩ := faultOf_eq_some_iff.1 h
  have hbroken : v.Breaks (.unknownComparison v) := by
    refine ⟨rfl, fun operator hknown hv => ?_⟩
    rw [readComparison_eq_ok_iff.2 ⟨hv, hknown⟩] at he
    cases he
  rw [readComparison.eq_def] at he
  split at he
  · split at he
    · cases he
    · cases he
      exact hbroken
  · cases he
    exact breaks_shownFault hbroken

theorem breaks_of_readJunction {v : Value} {fault : Fault} (h : faultOf (readJunction v) = some fault) :
    v.Breaks fault := by
  obtain ⟨e, he, rfl⟩ := faultOf_eq_some_iff.1 h
  have hbroken : v.Breaks (.unknownJunction v) := by
    refine ⟨rfl, ?_⟩
    rintro ⟨word, operator, hv, hknown, hword⟩
    rw [readJunction_eq_ok_iff.2 ⟨hknown, word, hv, hword⟩] at he
    cases he
  rw [readJunction.eq_def] at he
  split at he
  · split at he
    · cases he
    · cases he
      exact hbroken
  · cases he
    exact breaks_shownFault hbroken

theorem breaks_of_readOperand {v : Value} {fault : Fault} (h : faultOf (readOperand v) = some fault) :
    v.Breaks fault := by
  obtain ⟨e, he, rfl⟩ := faultOf_eq_some_iff.1 h
  rw [readOperand] at he
  split at he
  · rename_i hcollection
    cases he
    simpa [Breaks] using hcollection
  · split at he
    · rename_i hlong
      cases he
      simpa [Breaks] using hlong
    · cases he

theorem breaks_of_readList {v : Value} {fault : Fault} (h : faultOf (readList v) = some fault) :
    v.Breaks fault := by
  obtain ⟨e, he, rfl⟩ := faultOf_eq_some_iff.1 h
  rw [readList] at he
  split at he
  · rename_i hitems
    cases he
    exact ⟨hitems, rfl⟩
  · rename_i hitems
    cases he
    exact hitems
  · cases he

end Tree

/-! ## Checks of fields -/

namespace Fields

/-- The first check that finds a fault is one of the checks. -/
theorem mem_of_firstFault? {checks : List (String × Option Fault)} {name : String} {fault : Fault}
    (h : firstFault? checks = some (name, fault)) : (name, some fault) ∈ checks := by
  obtain ⟨⟨name', found⟩, hmem, hfound⟩ := List.exists_of_findSome?_eq_some h
  obtain ⟨fault', rfl, heq⟩ := Option.map_eq_some_iff.1 hfound
  cases heq
  exact hmem

/-- A check of a field finds what the check of its value finds. -/
theorem faultOf_field {α : Type} {check : Path → Checked α} (h : PointsAt [] check) (name : String) :
    faultOf (fun path => check (path.field name)) = faultOf check := by
  rw [faultOf, faultOf, h (Path.here.field name)]
  cases check .here with
  | error e => rfl
  | ok a => rfl

/-- The check of a field that is there finds what the check of its value finds. -/
theorem faultOf_readRequired_of_present? {α : Type} {fields : Fields} {name : String} {w : Value}
    {read : Value → Path → Checked α} (hread : PointsAt [] (read w)) (hp : fields.present? name = some w) :
    faultOf (fields.readRequired name read) = faultOf (read w) := by
  have hsome : fields.readRequired name read = fun path => read w (path.field name) := by
    funext path
    rw [readRequired, require, hp]
    rfl
  rw [hsome, faultOf_field hread]

/-- A field that has to be there is missing, or its value has a fault. -/
theorem faultOf_readRequired {α : Type} {fields : Fields} {name : String} {read : Value → Path → Checked α}
    (hread : ∀ v, PointsAt [] (read v)) {fault : Fault}
    (h : faultOf (fields.readRequired name read) = some fault) :
    fields.present? name = none ∧ fault = .missing ∨
      ∃ w, fields.get? name = some w ∧ faultOf (read w) = some fault := by
  cases hp : fields.present? name with
  | none =>
    have hnone : fields.readRequired name read = fun path => refuse (path.field name) .missing := by
      funext path
      rw [readRequired, require, hp]
      rfl
    rw [hnone] at h
    cases h
    exact .inl ⟨rfl, rfl⟩
  | some w =>
    rw [faultOf_readRequired_of_present? (hread w) hp] at h
    exact .inr ⟨w, lookup_of_present? hp, h⟩

/-- A default passes its check, so a fault is that of a field. -/
theorem faultOf_getD {α : Type} {fields : Fields} {name : String} {standard : Value}
    {read : Value → Path → Checked α} (hread : ∀ v, PointsAt [] (read v))
    (hstandard : faultOf (read standard) = none) {fault : Fault}
    (h : faultOf (fun path => read ((fields.get? name).getD standard) (path.field name)) = some fault) :
    ∃ w, fields.get? name = some w ∧ faultOf (read w) = some fault := by
  rw [faultOf_field (hread _)] at h
  cases hget : fields.get? name with
  | none =>
    rw [hget, Option.getD_none, hstandard] at h
    cases h
  | some w =>
    rw [hget, Option.getD_some] at h
    exact ⟨w, rfl, h⟩

/-- A fault of a time is that of the field which is the first one there. -/
theorem faultOf_timestamp? {fields : Fields} {names : List String} {fault : Fault}
    (h : faultOf (fields.timestamp? names) = some fault) :
    ∃ w, fields.get? (fields.firstName names) = some w ∧ faultOf w.readTimestamp = some fault := by
  obtain ⟨e, he, rfl⟩ := faultOf_eq_some_iff.1 h
  rw [timestamp?] at he
  split at he
  · rename_i name w hfirst
    obtain ⟨name', -, hfound⟩ := List.exists_of_findSome?_eq_some hfirst
    obtain ⟨w', hw', hsame⟩ := Option.map_eq_some_iff.1 hfound
    cases hsame
    have hname : fields.firstName names = name := by
      rw [firstName, hfirst]
      rfl
    refine ⟨w, by rw [hname]; exact lookup_of_present? hw', ?_⟩
    rw [← faultOf_field w.pointsAt_readTimestamp name]
    exact faultOf_eq_some_iff.2 ⟨e, except_map_eq_error.1 he, rfl⟩
  · cases he

end Fields

end RuleLabels
