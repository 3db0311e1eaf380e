import Mathlib.Tactic.Common
import RuleLabels.Proofs.Http.Sending
import RuleLabels.Proofs.Store.Taking

/-!
# Rules in responses

A rule can be sent if its texts are whole and its conditions are not nested too deeply.  What can be sent in a list
can be sent by itself, a rule can be sent with its switch on either side, and a store keeps what can be sent as it
is.

* `Rule.isSendable_iff`: which rules can be sent;
* `Http.tells_ruleResponse` and `Http.tells_ruleListing`: what is sent of a rule and of a list of rules;
* `Store.keep_of_isSendable`: a store keeps rules that can be sent.
-/

namespace RuleLabels

open Text

/-! ## Conditions -/

namespace Tree

mutual

/-- There are no floats in the written form of well-formed conditions. -/
theorem isFinite_written : ∀ {t : Tree}, t.isWellFormed = true → t.written.isFinite = true
  | leaf c, h => by
    rw [isWellFormed, Bool.and_eq_true] at h
    cases hv : c.value with
    | text s => simp [written, Condition.toValue, Value.isFinite, Value.fieldsAreFinite, hv]
    | _ =>
      rw [hv] at h
      exact nomatch h.2
  | group operator children, h => by
    rw [isWellFormed, Bool.and_eq_true] at h
    simp [written, groupValue, Value.isFinite, Value.fieldsAreFinite, itemsAreFinite_writtenEach h.2]

theorem itemsAreFinite_writtenEach : ∀ {ts : List Tree}, allWellFormed ts = true →
    Value.itemsAreFinite (writtenEach ts) = true
  | [], _ => rfl
  | t :: rest, h => by
    rw [allWellFormed, Bool.and_eq_true] at h
    rw [writtenEach, Value.itemsAreFinite, isFinite_written h.1, itemsAreFinite_writtenEach h.2]
    rfl

end

end Tree

namespace Http

/-! ## Room -/

mutual

/-- What can be sent inside some number of values can be sent inside one less. -/
theorem isUnsendable_succ : ∀ {room : Nat} {v : Value}, isUnsendable room v = false →
    isUnsendable (room + 1) v = false
  | 0, _, h => by
    rw [isUnsendable] at h
    cases h
  | _ + 1, .text _, h => h
  | _ + 1, .array _, h => unsendableItems_succ h
  | _ + 1, .object _, h => unsendableFields_succ h
  | _ + 1, .null, _ | _ + 1, .bool _, _ | _ + 1, .int _, _ | _ + 1, .float _, _ | _ + 1, .moment _, _
  | _ + 1, .date _, _ | _ + 1, .bytes _, _ | _ + 1, .tuple _, _ | _ + 1, .set _, _
  | _ + 1, .mapping _, _ | _ + 1, .looped _ _, _ => rfl

theorem unsendableItems_succ : ∀ {room : Nat} {items : List Value}, unsendableItems room items = false →
    unsendableItems (room + 1) items = false
  | _, [], _ => rfl
  | _, v :: rest, h => by
    rw [unsendableItems, Bool.or_eq_false_iff] at h ⊢
    exact ⟨isUnsendable_succ h.1, unsendableItems_succ h.2⟩

theorem unsendableFields_succ : ∀ {room : Nat} {fields : List (String × Value)},
    unsendableFields room fields = false → unsendableFields (room + 1) fields = false
  | _, [], _ => rfl
  | _, (_, v) :: rest, h => by
    rw [unsendableFields, Bool.or_eq_false_iff, Bool.or_eq_false_iff] at h ⊢
    exact ⟨⟨h.1.1, isUnsendable_succ h.1.2⟩, unsendableFields_succ h.2⟩

end

theorem unsendableItems_map {α : Type} (f : α → Value) (room : Nat) (items : List α) :
    unsendableItems room (items.map f) = items.any fun x => isUnsendable room (f x) := by
  induction items with
  | nil => rfl
  | cons x rest ih => rw [List.map_cons, unsendableItems, ih, List.any_cons]

theorem finiteItems_map_of_finite {α : Type} {f : α → Value} {items : List α}
    (h : ∀ x ∈ items, (f x).isFinite = true) : finiteItems (items.map f) = items.map f := by
  rw [finiteItems_eq_self_iff]
  induction items with
  | nil => rfl
  | cons x rest ih =>
    rw [List.forall_mem_cons] at h
    rw [List.map_cons, Value.itemsAreFinite, h.1, ih h.2]
    rfl

end Http

/-! ## Rules -/

/-- A rule can be sent as an item of a response. -/
def Rule.isSendable (r : Rule) : Bool := !Http.isUnsendable (Http.maxNesting - 1) r.toValue

namespace Rule

variable {r : Rule}

/-- A rule can be sent if its texts are whole, and its conditions can be sent inside it. -/
theorem isSendable_iff : r.isSendable = true ↔ isWhole r.id = true ∧ isWhole r.name = true ∧
    Http.isUnsendable (Http.maxNesting - 2) r.conditions.toValue = false ∧ isWhole r.label = true := by
  have htext (s : String) : Http.isUnsendable (Http.maxNesting - 2) (.text s) = !isWhole s := Http.any_isHalf s
  have hint (i : Int) : Http.isUnsendable (Http.maxNesting - 2) (.int i) = false := rfl
  have hbool (b : Bool) : Http.isUnsendable (Http.maxNesting - 2) (.bool b) = false := rfl
  have hfields : Http.isUnsendable (Http.maxNesting - 1) r.toValue = Http.unsendableFields (Http.maxNesting - 2)
      [("id", .text r.id), ("name", .text r.name), ("conditions", r.conditions.toValue), ("label", .text r.label),
        ("priority", .int r.priority), ("enabled", .bool r.enabled), ("createdAt", .text r.createdAt.text),
        ("updatedAt", .text r.updatedAt.text)] := rfl
  rw [isSendable, hfields, Bool.not_eq_true']
  iterate 8 rw [Http.unsendableFields_cons (by decide)]
  simp only [htext, hint, hbool, isWhole_timestamp, Http.unsendableFields, Bool.or_eq_false_iff,
    Bool.not_eq_false', Bool.not_true, and_true]

/-- A rule that can be sent can be sent with its switch on either side and with any time of its change. -/
theorem isSendable_switch (h : r.isSendable = true) (enabled : Bool) (now : Timestamp) :
    ((Change.switch enabled).apply now r).isSendable = true := by
  have hconditions : ((Change.switch enabled).apply now r).conditions = r.conditions := rfl
  obtain ⟨hid, hname, hsent, hlabel⟩ := isSendable_iff.1 h
  rw [isSendable_iff, hconditions]
  exact ⟨hid, hname, hsent, hlabel⟩

/-- There are no floats in a rule with well-formed conditions. -/
theorem isFinite_toValue (h : r.conditions.isWellFormed = true) : r.toValue.isFinite = true := by
  have hconditions : r.conditions.toValue.isFinite = true := by
    rw [Tree.toValue_eq_written]
    exact Tree.isFinite_written h
  simp [toValue, Value.isFinite, Value.fieldsAreFinite, hconditions]

end Rule

/-- A store keeps a rule that can be sent as it is. -/
theorem Store.keep_of_isSendable (s : Store) {r : Rule} (hr : r.IsValid) (h : r.isSendable = true) :
    s.keep r = r := by
  cases s with
  | memory rules records => rfl
  | folder s => rfl
  | database s =>
    obtain ⟨-, -, hconditions, -⟩ := Rule.isSendable_iff.1 h
    have hjoined := Tree.joined_eq_self hr.wellFormed hr.isGroup (Http.joinedHalves_of_sendable hconditions)
    show r.joined = r
    rw [Rule.joined, hjoined]

namespace Http

/-! ## Responses -/

/-- The fields of a response that lists rules. -/
def ruleListing (rules : List Rule) : Fields := [("rules", .array (rules.map Rule.toValue))]

/-- A response tells some fields of a success. -/
structure Response.Tells (response : Response) (fields : Fields) : Prop where
  status : response.status = 200
  sends : response.Sends (.object (("ok", .bool true) :: fields))

theorem unsendableFields_ruleListing (rules : List Rule) :
    unsendableFields maxNesting (ruleListing rules) = !rules.all Rule.isSendable := by
  have hitems : isUnsendable maxNesting (.array (rules.map Rule.toValue)) =
      unsendableItems (maxNesting - 1) (rules.map Rule.toValue) := rfl
  rw [ruleListing, unsendableFields_cons (by decide), hitems, unsendableItems_map, unsendableFields,
    Bool.or_false, List.not_all_eq_any_not]
  simp only [Rule.isSendable, Bool.not_not]

/-- Rules can all be sent if a list of them has the status of success. -/
theorem isSendable_of_status {rules : List Rule} (h : (success 200 (ruleListing rules)).status = 200) :
    ∀ r ∈ rules, r.isSendable = true := by
  rcases success_or 200 (ruleListing rules) with ⟨-, hbroken⟩ | ⟨hsendable, -⟩
  · rw [hbroken] at h
    cases h
  · rw [unsendableFields_ruleListing, Bool.not_eq_false', List.all_eq_true] at hsendable
    exact hsendable

/-- Rules that can be sent are listed as they are. -/
theorem tells_ruleListing {rules : List Rule} (hvalid : ∀ r ∈ rules, r.IsValid)
    (h : ∀ r ∈ rules, r.isSendable = true) : (success 200 (ruleListing rules)).Tells (ruleListing rules) := by
  have hfinite : finiteFields (ruleListing rules) = ruleListing rules := by
    rw [ruleListing, finiteFields, finiteValue,
      finiteItems_map_of_finite fun r hr => Rule.isFinite_toValue (hvalid r hr).wellFormed, finiteFields]
  rcases success_or 200 (ruleListing rules) with ⟨hunsendable, -⟩ | ⟨-, hstatus, hsends⟩
  · rw [unsendableFields_ruleListing, List.all_eq_true.2 h] at hunsendable
    cases hunsendable
  · rw [hfinite] at hsends
    exact ⟨hstatus, hsends⟩

/-- A rule that can be sent in a list is told as it is by itself. -/
theorem tells_ruleResponse {r : Rule} (hvalid : r.IsValid) (h : r.isSendable = true) :
    (ruleResponse 200 r).Tells [("rule", r.toValue)] := by
  have hfinite : finiteFields [("rule", r.toValue)] = [("rule", r.toValue)] := by
    rw [finiteFields, finiteValue_eq_self_iff.2 (Rule.isFinite_toValue hvalid.wellFormed), finiteFields]
  rw [Rule.isSendable, Bool.not_eq_true'] at h
  have hroom : isUnsendable maxNesting r.toValue = false := isUnsendable_succ h
  rw [ruleResponse]
  rcases success_or 200 [("rule", r.toValue)] with ⟨hunsendable, -⟩ | ⟨-, hstatus, hsends⟩
  · rw [unsendableFields_cons (by decide), hroom, unsendableFields] at hunsendable
    cases hunsendable
  · rw [hfinite] at hsends
    exact ⟨hstatus, hsends⟩

end Http

end RuleLabels
