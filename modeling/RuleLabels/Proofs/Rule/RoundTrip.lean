import Mathlib.Tactic.Common
import RuleLabels.Classify
import RuleLabels.Proofs.Time.Spelling
import RuleLabels.Proofs.Tree.Writing

/-!
# Rules and records are read as they are written

What a document leaves out or words in its own way is settled when it is read: an accepted rule has texts
that are more than blanks and a well-formed group for its conditions.  Its written form is one more document,
and gives the rule itself.

* `Rule.isValid_of_read`: what is true of every rule that is read;
* `Rule.read_toValue` and `Record.read_toValue`: the written forms are read back, at any place and time;
* `read_toValue_eq`: no round trip changes a rule, a record or the labels of a payload.
-/

namespace RuleLabels

/-! ## Times -/

theorem Value.readTimestamp_text (t : Timestamp) (path : Path) :
    (Value.text t.text).readTimestamp path = .ok t := by
  rw [Value.readTimestamp, Iso.not_allBlank_timestamp, Iso.moment?_text]
  rfl

/-- A written timestamp is read from the field that has it. -/
theorem Fields.timestamp?_of_text {fields : Fields} {names : List String} {name : String} {t : Timestamp}
    (h : fields.firstPresent? names = some (name, .text t.text)) (path : Path) :
    fields.timestamp? names path = .ok (some t) := by
  rw [timestamp?, h]
  simp only [Value.readTimestamp_text]
  rfl

/-! ## Rules -/

/-- A rule that a document can hold: its texts are more than blanks, and its conditions are a well-formed
group. -/
structure Rule.IsValid (r : Rule) : Prop where
  id : Text.allBlank r.id = false
  name : Text.allBlank r.name = false
  label : Text.allBlank r.label = false
  wellFormed : r.conditions.isWellFormed = true
  isGroup : r.conditions.isGroup = true

theorem Value.not_allBlank_of_readId {v : Value} {path : Path} {id : String}
    (h : v.readId path = .ok id) : Text.allBlank id = false := by
  rw [Value.readId.eq_def] at h
  split at h
  · exact absurd h refuse_ne_ok
  · split at h
    · exact absurd h refuse_ne_ok
    · split at h
      · exact absurd h refuse_ne_ok
      · split at h
        · exact absurd h refuse_ne_ok
        · rename_i hb
          cases h
          simpa using hb

theorem Value.readId_text {id : String} (h : Text.allBlank id = false) (path : Path) :
    (Value.text id).readId path = .ok id := by
  simp [Value.readId, Value.items?, Value.fields?, Value.hasText, Value.asText, h]

namespace Rule

/-- Every rule that is read is valid. -/
theorem isValid_of_read {now : Timestamp} {v : Value} {path : Path} {r : Rule}
    (h : read now v path = .ok r) : r.IsValid := by
  simp only [read, except_bind_eq_ok, Fields.requireText_eq_ok_iff] at h
  obtain ⟨_, -, _, -, id, hid, name, ⟨-, hname⟩, label, ⟨-, hlabel⟩, _, -, t, ht, _, -, _, -, _, -, _, -,
    hr⟩ := h
  obtain ⟨hw, hg⟩ := Tree.isWellFormed_of_readConditions ht
  cases hr
  exact ⟨Value.not_allBlank_of_readId hid, hname, hlabel, hw, hg⟩

/-- The written form of a valid rule is read back, wherever and whenever. -/
theorem read_toValue {r : Rule} (h : r.IsValid) (now : Timestamp) (path : Path) :
    read now r.toValue path = .ok r := by
  simp only [read, except_bind_eq_ok, Fields.requireText_eq_ok_iff, Fields.require_eq_ok_iff]
  refine ⟨_, rfl, _, ⟨rfl, rfl⟩, r.id, Value.readId_text h.id _, r.name, ⟨rfl, h.name⟩, r.label,
    ⟨rfl, h.label⟩, r.conditions.toValue, ⟨rfl, r.conditions.isNull_toValue⟩, r.conditions,
    Tree.readConditions_toValue h.wellFormed h.isGroup _, r.priority, rfl, r.enabled, rfl,
    some r.createdAt, ?_, some r.updatedAt, ?_, rfl⟩
  · exact Fields.timestamp?_of_text rfl _
  · exact Fields.timestamp?_of_text rfl _

/-- Valid rules are read back one by one. -/
theorem readEach_map_toValue {rs : List Rule} (h : ∀ r ∈ rs, r.IsValid) (now : Timestamp) (path : Path)
    (i : Nat) : readEach now path i (rs.map toValue) = .ok rs := by
  induction rs generalizing i with
  | nil => rfl
  | cons r rest ih =>
    have hrest := ih (fun s hs => h s (List.mem_cons_of_mem r hs)) (i + 1)
    rw [List.map_cons, readEach, read_toValue (h r List.mem_cons_self)]
    simp only [hrest]
    rfl

theorem isValid_of_readEach {now : Timestamp} {path : Path} {i : Nat} {vs : List Value} {rs : List Rule}
    (h : readEach now path i vs = .ok rs) : ∀ r ∈ rs, r.IsValid := by
  induction vs generalizing i rs with
  | nil =>
    cases h
    exact fun _ hr => nomatch hr
  | cons v rest ih =>
    rw [readEach] at h
    split at h
    · exact nomatch h
    · rename_i r hr
      obtain ⟨rs', hrest, rfl⟩ := except_map_eq_ok.1 h
      intro s hs
      rcases List.mem_cons.1 hs with rfl | hs
      · exact isValid_of_read hr
      · exact ih hrest s hs

end Rule

/-! ## Records -/

theorem Value.texts?_map_text (labels : List String) : texts? (labels.map .text) = some labels := by
  induction labels with
  | nil => rfl
  | cons label rest ih => rw [List.map_cons, texts?, ih]; rfl

theorem Value.readLabels_ofTexts (labels : List String) (path : Path) :
    (ofTexts labels).readLabels path = .ok labels := by
  rw [ofTexts]
  cases labels with
  | nil => rfl
  | cons label rest =>
    have htexts := texts?_map_text (label :: rest)
    rw [readLabels, isHollow, List.map_cons, List.isEmpty_cons, if_neg Bool.false_ne_true, items?,
      Option.bind_some, ← List.map_cons, htexts]

namespace Record

/-- The written form of a record is read back, wherever it stands. -/
theorem read_toValue (r : Record) (path : Path) : read r.toValue path = .ok r := by
  simp only [read, except_bind_eq_ok, Fields.require_eq_ok_iff]
  refine ⟨_, rfl, .text r.id, ⟨rfl, rfl⟩, .object r.payload, ⟨rfl, rfl⟩, r.payload, rfl, r.labels,
    Value.readLabels_ofTexts r.labels _, ?_⟩
  have hpresent : Fields.firstPresent? [("id", .text r.id), ("payload", .object r.payload),
      ("labels", .ofTexts r.labels), ("createdAt", .text r.createdAt.text)]
      ["createdAt", "created_at", "timestamp"] = some ("createdAt", .text r.createdAt.text) := rfl
  simp only [hpresent, Value.hasText, Value.asText, Value.readTimestamp_text]
  rfl

theorem readEach_map_toValue (rs : List Record) (path : Path) (i : Nat) :
    readEach path i (rs.map toValue) = .ok rs := by
  induction rs generalizing i with
  | nil => rfl
  | cons r rest ih =>
    rw [List.map_cons, readEach, read_toValue]
    simp only [ih]
    rfl

end Record

/-! ## Round trips -/

/-- What was read once is read again from its written form as the same rule or record, and so has the same
written form; and rules that were read give every payload the labels that they gave before. -/
theorem read_toValue_eq (now now' : Timestamp) (path path' : Path) :
    (∀ v r, Rule.read now v path = .ok r →
      Rule.read now' r.toValue path' = .ok r ∧
        (Rule.read now' r.toValue path').map Rule.toValue = .ok r.toValue) ∧
    (∀ v r, Record.read v path = .ok r →
      Record.read r.toValue path' = .ok r ∧
        (Record.read r.toValue path').map Record.toValue = .ok r.toValue) ∧
    ∀ rs : List Rule, (∀ r ∈ rs, ∃ v place, Rule.read now v place = .ok r) →
      ∀ levels payload, (Rule.readEach now' path' 0 (rs.map Rule.toValue)).map (Rule.labels levels payload) =
        .ok (Rule.labels levels payload rs) := by
  refine ⟨?_, ?_, ?_⟩
  · intro v r h
    have hback := Rule.read_toValue (Rule.isValid_of_read h) now' path'
    exact ⟨hback, by rw [hback]; rfl⟩
  · intro v r _
    have hback := Record.read_toValue r path'
    exact ⟨hback, by rw [hback]; rfl⟩
  · intro rs h levels payload
    have hvalid : ∀ r ∈ rs, r.IsValid := by
      intro r hr
      obtain ⟨v, place, hread⟩ := h r hr
      exact Rule.isValid_of_read hread
    rw [Rule.readEach_map_toValue hvalid]
    rfl

/-- A rule whose document has a number for its identifier, a lone condition, a float for its priority and
only one time, under the older name. -/
theorem read_toValue_adults :
    Rule.read .epoch (Rule.toValue ⟨"7", "Adults", "adult",
      .group "AND" [.leaf ⟨"age", ">=", .text "18"⟩], 2, true, .epoch, .epoch⟩) .document =
        .ok ⟨"7", "Adults", "adult", .group "AND" [.leaf ⟨"age", ">=", .text "18"⟩], 2, true, .epoch,
          .epoch⟩ := by
  refine ((read_toValue_eq .epoch .epoch .document .document).1 (.object [("id", .int 7),
    ("name", .text "Adults"), ("label", .text "adult"), ("conditions", .object [("key", .text "age"),
      ("operator", .text ">="), ("value", .int 18)]), ("priority", .float (.nearest false 2 1)),
    ("created_at", .moment Timestamp.epoch.toMoment)]) _ ?_).1
  have hpriority : (Binary64.nearest false 2 1).toInt? = some 2 := by decide +kernel
  have hconditions (path : Path) : Tree.readConditions (.object [("key", .text "age"),
      ("operator", .text ">="), ("value", .int 18)]) path =
        .ok (.group "AND" [.leaf ⟨"age", ">=", .text "18"⟩]) := by
    refine except_map_eq_ok.2 ⟨.leaf ⟨"age", ">=", .text "18"⟩, Tree.read_eq_ok_iff.2 ?_, rfl⟩
    refine .condition rfl ⟨.inr ⟨.inl rfl, rfl⟩, rfl, by decide, rfl, by decide, ?_⟩
    exact ⟨_, rfl, ⟨rfl, rfl, rfl, by decide +kernel⟩, rfl⟩
  have hid (path : Path) : (Value.int 7).readId path = .ok "7" := by
    have htext : (Value.int 7).hasText = true := by decide +kernel
    rw [Value.readId, htext]
    · rfl
    · exact fun _ h => nomatch h
  simp only [Rule.read, except_bind_eq_ok, Fields.requireText_eq_ok_iff, Fields.require_eq_ok_iff]
  refine ⟨_, rfl, _, ⟨rfl, rfl⟩, "7", hid _, "Adults", ⟨rfl, by decide⟩, "adult", ⟨rfl, by decide⟩, _,
    ⟨rfl, rfl⟩, _, hconditions _, 2, ?_, true, rfl, some .epoch, rfl, none, rfl, rfl⟩
  show (Value.float (.nearest false 2 1)).readPriority _ = _
  rw [Value.readPriority, hpriority]

end RuleLabels
