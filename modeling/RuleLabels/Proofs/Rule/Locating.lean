import RuleLabels.Proofs.Rule.Breaking

/-!
# Faults are found at their places

A document of rules is refused with the steps to a place.  At this place the fault is found, whichever part of
the document the steps go through: the list of the rules, one of its rules, the groups of the conditions.

* `Tree.FirstFault.hasFault` and `Rule.FirstFault.hasFault`: the first fault of a tree and of a rule is found;
* `Rule.hasFault_of_readItems`: so is the fault that a list of rules is refused for;
* `Rule.readAll_eq_error_hasFault`: so is the one that a document is refused for.
-/

namespace RuleLabels

/-! ## Trees -/

variable {named : Value → String → Prop}

namespace Value

/-- An object lacks a field of its own. -/
theorem hasFault_of_missing {v : Value} {fields : Fields} {name : String} (hf : v.fields? = some fields)
    (h : fields.present? name = none) : v.HasFault named [.field name] .missing := by
  have hroot : v.HasFault named ([] ++ [.field name]) .missing := .lacks rfl hf h
  exact hroot

/-- A field that has to be there is missing, or its value has the fault that its check finds. -/
theorem hasFault_of_readRequired {α : Type} {v : Value} {fields : Fields} {name : String}
    {read : Value → Path → Checked α} {fault : Fault} (hf : v.fields? = some fields)
    (hread : ∀ w, PointsAt [] (read w)) (h : faultOf (fields.readRequired name read) = some fault)
    (hvalue : ∀ w, v.reach? [.field name] = some w → faultOf (read w) = some fault →
      v.HasFault named [.field name] fault) : v.HasFault named [.field name] fault := by
  rcases Fields.faultOf_readRequired hread h with ⟨hmissing, rfl⟩ | ⟨w, hw, hfault⟩
  · exact hasFault_of_missing hf hmissing
  · exact hvalue w (reach?_field hf hw) hfault

/-- A name has to be there and to be a text with more than blanks. -/
theorem hasFault_of_readName {v : Value} {fields : Fields} {name : String} {fault : Fault}
    (hname : name ∈ ["name", "label", "key"]) (hf : v.fields? = some fields)
    (h : faultOf (fields.readRequired name nonBlank) = some fault) : v.HasFault named [.field name] fault := by
  refine hasFault_of_readRequired hf pointsAt_nonBlank h fun w hw hfault => ?_
  obtain ⟨rfl, hnot⟩ := fault_of_nonBlank hfault
  have hroot : v.HasFault named ([] ++ [.field name]) .blankText := .notAName hname hw hnot
  exact hroot

end Value

namespace Tree

open Value

theorem hasFault_of_conditionChecks {v : Value} {fields : Fields} {name : String} {fault : Fault}
    (hf : v.fields? = some fields) (h : Fields.firstFault? (conditionChecks fields) = some (name, fault)) :
    v.HasFault named [.field name] fault := by
  have hmem := Fields.mem_of_firstFault? h
  simp only [conditionChecks, List.mem_cons, List.not_mem_nil, or_false, Prod.mk.injEq] at hmem
  rcases hmem with ⟨rfl, hkey⟩ | ⟨rfl, hoperator⟩ | ⟨rfl, hvalue⟩
  · exact hasFault_of_readName (by decide) hf hkey.symm
  · exact hasFault_of_readRequired hf pointsAt_readComparison hoperator.symm fun w hw hfault =>
      .breaks hw (breaks_of_readComparison hfault)
  · exact hasFault_of_readRequired hf pointsAt_readOperand hvalue.symm fun w hw hfault =>
      .breaks hw (breaks_of_readOperand hfault)

theorem hasFault_of_groupChecks {v : Value} {fields : Fields} {name : String} {fault : Fault}
    (hf : v.fields? = some fields) (h : Fields.firstFault? (groupChecks fields) = some (name, fault)) :
    v.HasFault named [.field name] fault := by
  have hmem := Fields.mem_of_firstFault? h
  simp only [groupChecks, List.mem_cons, List.not_mem_nil, or_false, Prod.mk.injEq] at hmem
  rcases hmem with ⟨rfl, hoperator⟩ | ⟨rfl, hlist⟩
  · exact hasFault_of_readRequired hf pointsAt_readJunction hoperator.symm fun w hw hfault =>
      .breaks hw (breaks_of_readJunction hfault)
  · exact hasFault_of_readRequired hf pointsAt_readList hlist.symm fun w hw hfault =>
      .breaks hw (breaks_of_readList hfault)

theorem OwnFault.hasFault {v : Value} {steps : List Step} {fault : Fault} (h : OwnFault v steps fault) :
    v.HasFault named steps fault := by
  cases h with
  | notAnObject hf => exact .breaks rfl ⟨hf, rfl⟩
  | unknownType hf hw hcondition hgroup =>
    obtain ⟨hget, hnull⟩ := Fields.present?_eq_some_iff.1 hw
    exact .breaks (reach?_field hf hget) (breaks_shownFault ⟨rfl, hnull, hcondition, hgroup⟩)
  | undecidedType hf huntyped hkey hconditions hchildren =>
    exact .breaks rfl ⟨_, hf, huntyped, hkey, hconditions, hchildren⟩
  | condition hf _ hfound => exact hasFault_of_conditionChecks hf hfound
  | group hf _ hfound => exact hasFault_of_groupChecks hf hfound

/-- **The first fault of a tree is found at its place.** -/
theorem FirstFault.hasFault {v : Value} {steps : List Step} {fault : Fault} (h : FirstFault v steps fault) :
    v.HasFault named steps fault := by
  induction h with
  | own h => exact h.hasFault
  | @member v m fields operator before after ts steps fault hf hg _ _ ih =>
    obtain ⟨list, hitems, hlist⟩ := hg.listed
    have hmember : v.reach? [.field (childField fields), .index before.length] = some m := by
      have hfield := reach?_field hf (get?_childField_iff.2 hlist)
      have hindex : list.reach? [.index before.length] = some m := reach?_index hitems (by simp)
      show v.reach? ([.field (childField fields)] ++ [.index before.length]) = some m
      rw [reach?_append, hfield]
      exact hindex
    exact .under hmember ih

end Tree

/-! ## Rules -/

namespace Rule

open Value

theorem hasFault_of_mem_checksBefore {v : Value} {fields : Fields} {name : String} {fault : Fault}
    (hf : v.fields? = some fields) (hmem : (name, some fault) ∈ checksBefore fields) :
    v.HasFault named [.field name] fault := by
  simp only [checksBefore, List.mem_cons, List.not_mem_nil, or_false, Prod.mk.injEq] at hmem
  rcases hmem with ⟨rfl, hid⟩ | ⟨rfl, hname⟩ | ⟨rfl, hlabel⟩ | ⟨rfl, hconditions⟩
  · refine hasFault_of_readRequired hf pointsAt_readId hid.symm fun w hw hfault => ?_
    rcases fault_of_readId hfault with ⟨rfl, hnot⟩ | ⟨rfl, hlong⟩
    · have hroot : v.HasFault named ([] ++ [.field "id"]) .blankText := .notAnId hw hnot
      exact hroot
    · exact .breaks hw hlong
  · exact hasFault_of_readName (by decide) hf hname.symm
  · exact hasFault_of_readName (by decide) hf hlabel.symm
  · obtain ⟨e, he, rfl⟩ := faultOf_eq_some_iff.1 hconditions.symm
    rw [Fields.require] at he
    split at he
    · cases he
    · rename_i hmissing
      cases he
      exact hasFault_of_missing hf hmissing

theorem hasFault_of_mem_checksAfter {v : Value} {fields : Fields} {name : String} {fault : Fault}
    (hf : v.fields? = some fields) (hmem : (name, some fault) ∈ checksAfter fields) :
    v.HasFault named [.field name] fault := by
  simp only [checksAfter, List.mem_cons, List.not_mem_nil, or_false, Prod.mk.injEq] at hmem
  rcases hmem with ⟨rfl, hpriority⟩ | ⟨rfl, henabled⟩ | ⟨rfl, hcreated⟩ | ⟨rfl, hupdated⟩
  · obtain ⟨w, hw, hfault⟩ := Fields.faultOf_getD pointsAt_readPriority rfl hpriority.symm
    exact .breaks (reach?_field hf hw) (breaks_of_readPriority hfault)
  · obtain ⟨w, hw, hfault⟩ := Fields.faultOf_getD pointsAt_readEnabled rfl henabled.symm
    exact .breaks (reach?_field hf hw) (breaks_of_readEnabled hfault)
  · obtain ⟨w, hw, hfault⟩ := Fields.faultOf_timestamp? hcreated.symm
    exact .breaks (reach?_field hf hw) (breaks_of_readTimestamp hfault)
  · obtain ⟨w, hw, hfault⟩ := Fields.faultOf_timestamp? hupdated.symm
    exact .breaks (reach?_field hf hw) (breaks_of_readTimestamp hfault)

/-- **The first fault of a rule is found at its place.** -/
theorem FirstFault.hasFault {v : Value} {steps : List Step} {fault : Fault} (h : FirstFault v steps fault) :
    v.HasFault named steps fault := by
  cases h with
  | notAnObject hf => exact .breaks rfl ⟨hf, rfl⟩
  | before hf hfound => exact hasFault_of_mem_checksBefore hf (Fields.mem_of_firstFault? hfound)
  | conditions hf _ hw hfault =>
    exact .under (reach?_field hf (Fields.lookup_of_present? hw)) hfault.hasFault
  | after hf _ _ _ hfound => exact hasFault_of_mem_checksAfter hf (Fields.mem_of_firstFault? hfound)

/-! ## Lists of rules -/

/-- The rule at which the reading of a list stops, where each rule is read for one that has its faults. -/
theorem hasFault_of_readEach {now : Timestamp} {path : Path} {i : Nat} {vs given : List Value} {e : Invalid}
    (hgiven : vs.Forall₂ (fun v g => ∀ steps fault, FirstFault g steps fault → v.HasFault named steps fault)
      given)
    (h : readEach now path i given = .error e) :
    ∃ before m after steps, vs = before ++ m :: after ∧ m.HasFault named steps e.fault ∧
      e.path = (path.index (i + before.length)).along steps := by
  induction hgiven generalizing i with
  | nil => cases h
  | @cons v g vs given hg _ ih =>
    rw [readEach] at h
    split at h
    · rename_i e' he
      cases h
      obtain ⟨steps, fault, hfault, rfl⟩ := read_eq_error_iff.1 he
      exact ⟨[], v, vs, steps, rfl, hg steps fault hfault, rfl⟩
    · obtain ⟨before, m, after, steps, rfl, hfault, hpath⟩ := ih (except_map_eq_error.1 h)
      refine ⟨v :: before, m, after, steps, rfl, hfault, ?_⟩
      rw [hpath, List.length_cons]
      congr 2
      omega

/-- The identifier of a rule is the text of the one that is written. -/
theorem writesId_of_read {now : Timestamp} {v : Value} {path : Path} {r : Rule} (h : read now v path = .ok r) :
    v.WritesId r.id := by
  simp only [read, except_bind_eq_ok] at h
  obtain ⟨fields, hfields, w, hw, id, hid, name, -, label, -, _, -, t, -, priority, -, enabled, -, created, -,
    updated, -, hr⟩ := h
  cases hr
  have hfound : v.fields? = some fields := by
    rw [Value.fields] at hfields
    split at hfields
    · rename_i fields' hfields'
      cases hfields
      exact hfields'
    · exact absurd hfields refuse_ne_ok
  have htext : w.asText = id := by
    rw [Value.readId.eq_def] at hid
    split at hid
    · exact absurd hid refuse_ne_ok
    · split at hid
      · exact absurd hid refuse_ne_ok
      · split at hid
        · exact absurd hid refuse_ne_ok
        · split at hid
          · exact absurd hid refuse_ne_ok
          · cases hid
            rfl
  rw [WritesId, hfound, Option.bind_some, (Fields.require_eq_ok_iff.1 hw).1, Option.map_some, htext]

/-- Each rule is read by itself. -/
theorem forall₂_of_readEach {R : Value → Value → Prop} {now : Timestamp} {path : Path} {i : Nat}
    {vs given : List Value} {rules : List Rule} (hgiven : vs.Forall₂ R given)
    (h : readEach now path i given = .ok rules) :
    vs.Forall₂ (fun v r => ∃ g place, R v g ∧ read now g place = .ok r) rules := by
  induction hgiven generalizing i rules with
  | nil =>
    cases h
    exact .nil
  | cons hg _ ih =>
    rw [readEach] at h
    split at h
    · cases h
    · rename_i r hr
      obtain ⟨others, hothers, rfl⟩ := except_map_eq_ok.1 h
      exact .cons ⟨_, _, hg, hr⟩ (ih hothers)

/-- The rule that is the first to repeat an identifier. -/
theorem repeats_of_checkDistinct {path : Path} {i : Nat} {seen : List String} {rules : List Rule} {e : Invalid}
    (hseen : seen.Nodup) (h : checkDistinct path i seen rules = .error e) :
    ∃ before r after, rules = before ++ r :: after ∧ (seen.reverse ++ before.map Rule.id).Nodup ∧
      r.id ∈ seen.reverse ++ before.map Rule.id ∧
        e = ⟨(path.index (i + before.length)).field "id", .duplicateId r.id⟩ := by
  induction rules generalizing i seen with
  | nil => cases h
  | cons r rest ih =>
    rw [checkDistinct] at h
    split at h
    · rename_i hrepeats
      rw [List.contains_iff_mem] at hrepeats
      cases h
      exact ⟨[], r, rest, rfl, by simpa using hseen, by simpa using hrepeats, rfl⟩
    · rename_i hnew
      rw [List.contains_iff_mem] at hnew
      obtain ⟨before, r', after, rfl, hnodup, hmem, rfl⟩ := ih (List.nodup_cons.2 ⟨hnew, hseen⟩) h
      have hids : (r.id :: seen).reverse ++ before.map Rule.id = seen.reverse ++ (r :: before).map Rule.id := by
        simp
      refine ⟨r :: before, r', after, rfl, hids ▸ hnodup, hids ▸ hmem, ?_⟩
      rw [List.length_cons]
      congr 3
      omega

/-- Reads the rules in a list, of which no two may have the same identifier. -/
def readItems (now : Timestamp) (path : Path) (items : List Value) : Checked (List Rule) := do
  let rules ← readEach now path 0 items
  checkDistinct path 0 [] rules
  return rules

/-- A list of rules is refused for a fault of one of them that is found at its place, also if each rule is read
for another one that has its faults. -/
theorem hasFault_of_readItems {now : Timestamp} {path : Path} {v : Value} {items given : List Value} {e : Invalid}
    (hitems : v.items? = some items)
    (hgiven : items.Forall₂ (fun m g => ∀ steps fault, FirstFault g steps fault → m.HasFault named steps fault)
      given)
    (hnamed : items.Forall₂ (fun m g => ∀ path r, read now g path = .ok r → named m r.id) given)
    (h : readItems now path given = .error e) :
    ∃ i steps, e.path = path.along (.index i :: steps) ∧ v.HasFault named (.index i :: steps) e.fault := by
  rcases except_bind_eq_error.1 h with hread | ⟨rules, hread, hdistinct⟩
  · obtain ⟨before, m, after, steps, rfl, hfault, hpath⟩ := hasFault_of_readEach hgiven hread
    have hmember : v.reach? [.index before.length] = some m := reach?_index hitems (by simp)
    refine ⟨before.length, steps, ?_, .under hmember hfault⟩
    rw [hpath, Path.along_index, Nat.zero_add]
  · rcases except_bind_eq_error.1 hdistinct with hdistinct | ⟨_, _, hpure⟩
    · obtain ⟨before, r, after, rfl, hnodup, hmem, rfl⟩ := repeats_of_checkDistinct .nil hdistinct
      rw [List.reverse_nil, List.nil_append] at hnodup hmem
      -- the written rules are split where the rules are
      have hids : items.Forall₂ (fun m r => named m r.id) (before ++ r :: after) :=
        (forall₂_of_readEach hnamed hread).imp fun _ _ ⟨_, place, hg, hr⟩ => hg place _ hr
      have hbefore := List.forall₂_take_append _ _ _ hids
      obtain ⟨m, rest, hm, -, hrest⟩ := List.forall₂_cons_right_iff.1 (List.forall₂_drop_append _ _ _ hids)
      have hsplit : items = items.take before.length ++ m :: rest := by
        rw [← hrest, List.take_append_drop]
      have hlength : (items.take before.length).length = before.length := hbefore.length_eq
      have hfault : v.HasFault named ([] ++ [.index (items.take before.length).length, .field "id"])
          (.duplicateId r.id) :=
        .repeats rfl (hitems.trans (congrArg some hsplit)) (List.forall₂_map_right_iff.2 hbefore) hnodup hmem hm
      rw [hlength] at hfault
      exact ⟨before.length, [.field "id"], by simp, hfault⟩
    · cases hpure

/-- **A document of rules is refused for a fault that is found at its place.**  The place is some steps away
from that of the document.  All of them but the last one lead to values of the document, and at the end there is
a value that breaks the check that the fault is worded for, an object without the named field, or the later of
two identifiers with one text, where no rule before repeats one. -/
theorem readAll_eq_error_hasFault {now : Timestamp} {v : Value} {path : Path} {e : Invalid}
    (h : readAll now v path = .error e) :
    ∃ steps, e.path = path.along steps ∧ e.path.text = path.text ++ String.join (steps.map Step.text) ∧
      (v.reach? steps.dropLast).isSome = true ∧ v.HasFault WritesId steps e.fault := by
  have hsame (items : List Value) : items.Forall₂
      (fun m g => ∀ steps fault, FirstFault g steps fault → m.HasFault WritesId steps fault) items :=
    List.forall₂_same.2 fun _ _ _ _ hfault => hfault.hasFault
  have hnamed (items : List Value) : items.Forall₂
      (fun m g => ∀ path r, read now g path = .ok r → m.WritesId r.id) items :=
    List.forall₂_same.2 fun _ _ _ _ hread => writesId_of_read hread
  obtain ⟨steps, hpath, hfault⟩ : ∃ steps, e.path = path.along steps ∧ v.HasFault WritesId steps e.fault := by
    rw [readAll] at h
    cases hrules : v.fields?.bind fun fields => Fields.get? fields "rules" with
    | none =>
      -- the document itself has to be the list
      simp only [hrules] at h
      split at h
      · rename_i items hitems
        obtain ⟨i, steps, hpath, hfault⟩ := hasFault_of_readItems hitems (hsame items) (hnamed items) h
        exact ⟨.index i :: steps, hpath, hfault⟩
      · rename_i hitems
        cases h
        exact ⟨[], rfl, .breaks rfl ⟨hitems, rfl⟩⟩
    | some w =>
      obtain ⟨fields, hf, hw⟩ := Option.bind_eq_some_iff.1 hrules
      have hreach : v.reach? [.field "rules"] = some w := reach?_field hf hw
      simp only [hrules] at h
      split at h
      · rename_i items hitems
        obtain ⟨i, steps, hpath, hfault⟩ := hasFault_of_readItems hitems (hsame items) (hnamed items) h
        exact ⟨.field "rules" :: .index i :: steps, by rw [hpath, Path.along_field], .under hreach hfault⟩
      · rename_i hitems
        cases h
        exact ⟨[.field "rules"], rfl, .breaks hreach ⟨hitems, rfl⟩⟩
  exact ⟨steps, hpath, by rw [hpath, Path.text_along], hfault.isSome_reach?_dropLast, hfault⟩

/-- A rule under `rules`, in whose conditions the only member has a null for its value. -/
theorem readAll_eq_error_hasFault_nested :
    let member := Value.object [("key", .text "age"), ("operator", .text ">="), ("value", .null)]
    let adults := Value.object [("id", .text "adults"), ("name", .text "Adults"), ("label", .text "adult"),
      ("conditions", .object [("operator", .text "and"), ("children", .array [member])])]
    let steps : List Step := [.field "rules", .index 0, .field "conditions", .field "children", .index 0,
      .field "value"]
    let e : Invalid := ⟨Path.document.along steps, .missing⟩
    readAll .epoch (.object [("rules", .array [adults])]) .document = .error e ∧
      e.path.text = "$.rules[0].conditions.children[0].value" ∧
      ∃ steps, e.path = Path.document.along steps ∧
        e.path.text = Path.document.text ++ String.join (steps.map Step.text) ∧
        ((Value.object [("rules", .array [adults])]).reach? steps.dropLast).isSome = true ∧
        (Value.object [("rules", .array [adults])]).HasFault WritesId steps e.fault := by
  intro member adults steps e
  have hmember : Tree.FirstFault member [.field "value"] .missing :=
    .own (.condition rfl (.inr ⟨.inl rfl, rfl⟩) rfl)
  have hgroup : Tree.FirstFault (.object [("operator", .text "and"), ("children", .array [member])])
      [.field "children", .index 0, .field "value"] .missing := by
    have hlists : Tree.IsGroup [("operator", .text "and"), ("children", .array [member])] "AND"
        ([] ++ member :: []) :=
      ⟨.inr ⟨.inl rfl, rfl, .inr rfl⟩, ⟨"and", rfl, by decide⟩, by decide, ⟨_, rfl, .inr ⟨rfl, rfl⟩⟩, by simp⟩
    exact .member rfl hlists .nil hmember
  have hadults : FirstFault adults [.field "conditions", .field "children", .index 0, .field "value"] .missing :=
    .conditions rfl rfl rfl hgroup
  have hread : read .epoch adults ((Path.document.field "rules").index 0) = .error e :=
    read_eq_error_iff.2 ⟨_, _, hadults, rfl⟩
  have hall : readAll .epoch (.object [("rules", .array [adults])]) .document = .error e := by
    show readEach .epoch (Path.document.field "rules") 0 [adults] >>= _ = _
    rw [readEach, hread]
    rfl
  exact ⟨hall, by decide, readAll_eq_error_hasFault hall⟩

end Rule

end RuleLabels
