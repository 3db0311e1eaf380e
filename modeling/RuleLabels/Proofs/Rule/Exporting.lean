import Mathlib.Tactic.Common
import RuleLabels.Proofs.Json.Writing
import RuleLabels.Proofs.Rule.Merging
import RuleLabels.Proofs.Rule.Rereading
import RuleLabels.Proofs.Store.Stocks

/-!
# Exported rules

Rules are exported as their documents, in an array that stands alone or under the name `rules`, in a JSON
file that may spell them in any way.  Loading such a file gives just these rules and takes no identifier.

* `run_load_of_areExported`: exported rules are loaded as they are.
-/

namespace RuleLabels

open Json Value

/-! ## Exact documents -/

namespace Tree

mutual

theorem isExact_written : ∀ {t : Tree}, t.isWellFormed = true → t.written.isJson = true →
    t.written.isExact = true
  | leaf ⟨key, operator, value⟩, hw, h => by
    rw [isWellFormed, Bool.and_eq_true] at hw
    cases value with
    | text s =>
      simp only [written, Condition.toValue, isJson, fieldsAreJson, Bool.and_eq_true] at h
      simp only [written, Condition.toValue, isExact, fieldsAreExact, h, Bool.and_true, Bool.true_and,
        List.map_cons, List.map_nil]
      decide
    | _ => exact nomatch hw.2
  | group operator children, hw, h => by
    rw [isWellFormed, Bool.and_eq_true] at hw
    simp only [written, groupValue, isJson, fieldsAreJson, Bool.and_eq_true] at h
    have hitems := itemsAreExact_writtenEach hw.2 h.2.2.1.2
    simp only [written, groupValue, isExact, fieldsAreExact, h, hitems, Bool.and_true, Bool.true_and,
      List.map_cons, List.map_nil]
    decide

theorem itemsAreExact_writtenEach : ∀ {ts : List Tree}, allWellFormed ts = true →
    itemsAreJson (writtenEach ts) = true → itemsAreExact (writtenEach ts) = true
  | [], _, _ => rfl
  | t :: rest, hw, h => by
    rw [allWellFormed, Bool.and_eq_true] at hw
    rw [writtenEach, itemsAreJson, Bool.and_eq_true] at h
    rw [writtenEach, itemsAreExact, isExact_written hw.1 h.1, itemsAreExact_writtenEach hw.2 h.2]
    rfl

end

end Tree

/-- The document of a valid rule is exact if it is of JSON. -/
theorem Rule.isExact_toValue {r : Rule} (hr : r.IsValid) (h : r.toValue.isJson = true) :
    r.toValue.isExact = true := by
  simp only [toValue, isJson, fieldsAreJson, Bool.and_eq_true] at h
  have hconditions : r.conditions.toValue.isExact = true := by
    have hjson := h.2.2.1.2
    rw [Tree.toValue_eq_written] at hjson ⊢
    exact Tree.isExact_written hr.wellFormed hjson
  simp only [toValue, isExact, fieldsAreExact, h, hconditions, Bool.and_true, Bool.true_and,
    List.map_cons, List.map_nil]
  decide

namespace Rule

/-! ## Exports -/

/-- A document that rules are exported as. -/
def IsExport (rules : List Rule) (v : Value) : Prop :=
  v = FolderStore.rulesDocument rules ∨ v = .object [("rules", FolderStore.rulesDocument rules)]

/-- A JSON file has a text that spells an export of rules, in which no more collections are inside each other
than can be read. -/
structure AreExported (rules : List Rule) (l : Location) (files : Files) : Prop where
  isJson : Text.lower l.suffix = ".json"
  spelled : ∃ (c : Content) (b s b' : List Char) (v : Value), files.content l = .ok c ∧
    c.decoded = .ok (String.ofList (b ++ (s ++ b'))) ∧ AllSpace b ∧ Spells s v ∧ AllSpace b' ∧
    IsExport rules v ∧ v.nesting ≤ maxDepth

variable {rules : List Rule} {l : Location} {w : World}

/-- A file with the text of the documents of rules, in any layout, exports them. -/
theorem areExported_of_content {files : Files} {c : Content} {layout : Layout} {v : Value}
    (hlayout : layout.IsBlank) (hjson : Text.lower l.suffix = ".json") (hcontent : files.content l = .ok c)
    (hdecoded : c.decoded = .ok (written layout 0 v)) (hexport : IsExport rules v)
    (hvalid : ∀ r ∈ rules, r.IsValid) (h : ∀ r ∈ rules, r.toValue.isJson = true)
    (hnesting : v.nesting ≤ maxDepth) : AreExported rules l files := by
  have hrules : (FolderStore.rulesDocument rules).isExact = true := by
    refine itemsAreExact_iff.2 fun v hv => ?_
    obtain ⟨r, hr, rfl⟩ := List.mem_map.1 hv
    exact isExact_toValue (hvalid r hr) (h r hr)
  have hexact : v.isExact = true := by
    rcases hexport with rfl | rfl
    · exact hrules
    · simp only [isExact, fieldsAreExact, hrules, List.map_cons, List.map_nil]
      decide
  refine ⟨hjson, c, [], _, [], v, hcontent, ?_, allSpace_nil, spells_written hlayout 0 hexact,
    allSpace_nil, hexport, hnesting⟩
  rw [hdecoded, List.append_nil, List.nil_append, String.ofList_toList]

/-! ## Loading -/

theorem run_readDocument_of_areExported (h : AreExported rules l w.files) :
    ∃ v, IsExport rules v ∧ ExceptT.run (readDocument l) w = (.ok v, w) := by
  obtain ⟨hjson, c, b, s, b', v, hcontent, hdecoded, hb, hs, hb', hexport, hnesting⟩ := h
  refine ⟨v, hexport, ?_⟩
  rw [readDocument, Action.run_bind_ok (Action.run_get w)]
  simp only [hcontent, hdecoded, if_pos hjson, jsonDocument, read_of_spells hb hs hb' hnesting]
  rfl

/-- A document of JSON that is written to a file is read from it. -/
theorem run_readDocument_of_written {v : Value} (hjson : Text.lower l.suffix = ".json")
    (hcontent : w.files.content l = .ok (.document v)) (hexact : v.isExact = true) (hnesting : v.nesting ≤ maxDepth) :
    ExceptT.run (readDocument l) w = (.ok v, w) := by
  have hdecoded : (Content.document v).decoded =
      .ok (String.ofList ([] ++ (written .indented 0 v).toList ++ [])) := by
    rw [List.nil_append, List.append_nil, String.ofList_toList]
    rfl
  unfold readDocument
  rw [Action.run_bind_ok (Action.run_get w)]
  simp only [hcontent, hdecoded, if_pos hjson, jsonDocument]
  rw [List.append_assoc,
    read_of_spells allSpace_nil (spells_written Layout.isBlank_indented 0 hexact) allSpace_nil hnesting]
  rfl

theorem itemsOf?_of_isExport {v : Value} (h : IsExport rules v) :
    itemsOf? v = some (rules.map Rule.toValue) := by
  rcases h with rfl | rfl
  · rfl
  · rfl

/-- The file lists the documents of the exported rules. -/
theorem lists_of_areExported (h : AreExported rules l w.files) : Lists l w (rules.map toValue) := by
  obtain ⟨v, hexport, hread⟩ := run_readDocument_of_areExported h
  exact ⟨v, by rw [hread], itemsOf?_of_isExport hexport⟩

/-- A written rule has its identifier. -/
theorem lacksId_toValue {r : Rule} (h : r.IsValid) : r.toValue.lacksId = false := by
  have hid := h.id
  rw [Text.allBlank, Bool.eq_false_iff] at hid
  have hhollow : (Value.text r.id).isHollow = false := by
    rw [Value.isHollow, Bool.eq_false_iff]
    intro hempty
    rw [String.isEmpty_iff] at hempty
    rw [hempty] at hid
    exact hid rfl
  exact hhollow

/-- Exported rules have their identifiers. -/
theorem lacksId_of_mem_toValue (h : ∀ r ∈ rules, r.IsValid) : ∀ v ∈ rules.map toValue, v.lacksId = false := by
  intro v hv
  obtain ⟨r, hr, rfl⟩ := List.mem_map.1 hv
  exact lacksId_toValue (h r hr)

/-- **Exported rules are loaded as they are.** -/
theorem run_load_of_areExported (h : AreExported rules l w.files) (hk : AreOrderly rules) :
    ExceptT.run (load l) w = (.ok rules, w) := by
  have hall : readAll w.now (.array (rules.map toValue)) .document = .ok rules :=
    readAll_rulesDocument hk.valid hk.distinct w.now
  rw [(lists_of_areExported h).run_load (lacksId_of_mem_toValue hk.valid) rfl, hall]
  rfl

/-! ## Columns -/

theorem joinedHalves_of_mem {vs : List Value} (h : joinedItems vs = vs) : ∀ v ∈ vs, joinedHalves v = v := by
  induction vs with
  | nil => exact nofun
  | cons v rest ih =>
    rw [joinedItems] at h
    obtain ⟨hv, hrest⟩ := List.cons.inj h
    exact List.forall_mem_cons.2 ⟨hv, ih hrest⟩

/-- A column keeps a rule as it is, if it keeps its document. -/
theorem joined_eq_self {r : Rule} (hr : r.IsValid) (h : joinedHalves r.toValue = r.toValue) : r.joined = r := by
  have hfields := Value.object.inj h
  simp only [joinedFields, List.cons.injEq, Prod.mk.injEq] at hfields
  have hconditions := hfields.2.2.1.2
  rw [joined, Tree.joined_eq_self hr.wellFormed hr.isGroup hconditions]

/-- Columns keep exported rules as they are. -/
theorem map_joined_of_areExported {files : Files} (h : AreExported rules l files) (hk : AreOrderly rules) :
    rules.map Rule.joined = rules := by
  obtain ⟨-, c, b, s, b', v, -, -, -, hs, -, hexport, -⟩ := h
  have hitems : joinedItems (rules.map Rule.toValue) = rules.map Rule.toValue := by
    have hjoined := hs.joinedHalves_eq
    rcases hexport with rfl | rfl
    · exact Value.array.inj hjoined
    · exact Value.array.inj (Prod.mk.inj (List.cons.inj (Value.object.inj hjoined)).1).2
  refine (List.map_congr_left fun r hr => ?_).trans (List.map_id rules)
  exact joined_eq_self (hk.valid r hr) (joinedHalves_of_mem hitems _ (List.mem_map_of_mem hr))

/-! ## Changes -/

theorem AreOrderly.map_changedAt (h : AreOrderly rules) (now : Timestamp) :
    AreOrderly (rules.map (changedAt now)) := by
  constructor
  · intro s hs
    obtain ⟨r, hr, rfl⟩ := List.mem_map.1 hs
    have hv := h.valid r hr
    exact ⟨hv.id, hv.name, hv.label, hv.wellFormed, hv.isGroup⟩
  · rw [List.map_map]
    exact h.distinct

/-- Columns keep the time of a change. -/
theorem map_joined_map_changedAt (now : Timestamp) (rules : List Rule) :
    (rules.map (changedAt now)).map Rule.joined = (rules.map Rule.joined).map (changedAt now) := by
  rw [List.map_map, List.map_map]
  rfl

end Rule

end RuleLabels
