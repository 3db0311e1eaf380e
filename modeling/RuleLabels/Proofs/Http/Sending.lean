import Mathlib.Tactic.Common
import RuleLabels.Http
import RuleLabels.Proofs.Statistics
import RuleLabels.Proofs.Store.Rows

/-!
# What can be sent

A response of a successful operation is its document, in which null stands for the floats that are no numbers,
unless a text in it holds half of a character or its parts are nested too deeply.  A list of records can be
sent if each of them can, and then a summary of some of them can be sent as well.

* `success_or`: what is sent of some fields;
* `unsendableFields_listing`, `unsendableFields_summary`: when records and summaries cannot be sent;
* `Snapshot.isSendable_ofRecords`: summaries of records that can be sent;
* `Record.joined_of_isSendable`: nothing is left to be joined in a record that can be sent.
-/

namespace RuleLabels

open Text

/-! ## Finite numbers -/

namespace Value

mutual

/-- No float in a value is infinite or no number. -/
def isFinite : Value → Bool
  | float .nan | float (.infinite _) => false
  | array items => itemsAreFinite items
  | object fields => fieldsAreFinite fields
  | _ => true

/-- No float in the items is infinite or no number. -/
def itemsAreFinite : List Value → Bool
  | [] => true
  | v :: rest => v.isFinite && itemsAreFinite rest

/-- No float in the fields is infinite or no number. -/
def fieldsAreFinite : List (String × Value) → Bool
  | [] => true
  | (_, v) :: rest => v.isFinite && fieldsAreFinite rest

end

end Value

namespace Http

mutual

/-- A value is sent as it is just where its floats are finite. -/
theorem finiteValue_eq_self_iff : ∀ {v : Value}, finiteValue v = v ↔ v.isFinite = true
  | .float .nan => by simp [finiteValue, Value.isFinite]
  | .float (.infinite _) => by simp [finiteValue, Value.isFinite]
  | .float (.finite _ _ _ _) => by simp [finiteValue, Value.isFinite]
  | .array items => by simp [finiteValue, Value.isFinite, finiteItems_eq_self_iff]
  | .object fields => by simp [finiteValue, Value.isFinite, finiteFields_eq_self_iff]
  | .null | .bool _ | .int _ | .text _ | .moment _ | .date _ | .bytes _ | .tuple _ | .set _ | .mapping _
  | .looped _ _ => by simp [finiteValue, Value.isFinite]

theorem finiteItems_eq_self_iff : ∀ {items : List Value},
    finiteItems items = items ↔ Value.itemsAreFinite items = true
  | [] => by simp [finiteItems, Value.itemsAreFinite]
  | v :: rest => by
    simp [finiteItems, Value.itemsAreFinite, finiteValue_eq_self_iff, finiteItems_eq_self_iff]

theorem finiteFields_eq_self_iff : ∀ {fields : List (String × Value)},
    finiteFields fields = fields ↔ Value.fieldsAreFinite fields = true
  | [] => by simp [finiteFields, Value.fieldsAreFinite]
  | (k, v) :: rest => by
    simp [finiteFields, Value.fieldsAreFinite, finiteValue_eq_self_iff, finiteFields_eq_self_iff]

end

end Http

/-! ## Records and summaries -/

/-- The payload of a record as it is sent: null stands for the floats that are no numbers. -/
def Record.finite (r : Record) : Record := { r with payload := Http.finiteFields r.payload }

/-- A payload can be sent in a record of a response: its texts are whole, and its parts are not nested too
deeply. -/
def Http.isSendablePayload (payload : Fields) : Bool := !Http.unsendableFields (Http.maxNesting - 3) payload

/-- A record can be sent as an item of a response. -/
def Record.isSendable (r : Record) : Bool := !Http.isUnsendable (Http.maxNesting - 1) r.toValue

/-- A summary can be sent: its labels are whole, and the records that it lists can be sent. -/
def Snapshot.isSendable (x : Snapshot) : Bool :=
  x.shares.all (fun l => isWhole l.label) && x.recent.all Record.isSendable

namespace Http

/-- The fields of a response that lists records. -/
def listing (records : List Record) : Fields :=
  [("count", .int records.length), ("records", .array (records.map Record.toValue))]

/-- A response has a document as its content, written out if an integer in it has too many digits. -/
def Response.Sends (response : Response) (v : Value) : Prop :=
  response.content = .json v ∨ response.content = .text (Json.tight v)

/-- What is sent of the fields of a success. -/
theorem success_or (status : Nat) (fields : Fields) :
    (unsendableFields maxNesting fields = true ∧ success status fields = .broken) ∨
      (unsendableFields maxNesting fields = false ∧ (success status fields).status = status ∧
        (success status fields).Sends (.object (("ok", .bool true) :: finiteFields fields))) := by
  rw [success]
  cases unsendableFields maxNesting fields with
  | true => exact .inl ⟨rfl, rfl⟩
  | false =>
    refine .inr ⟨rfl, ?_⟩
    rw [if_neg Bool.false_ne_true]
    split
    · exact ⟨rfl, .inl rfl⟩
    · exact ⟨rfl, .inr rfl⟩

/-! ## Texts -/

theorem any_isHalf (s : String) : s.toList.any isHalf = !isWhole s := by
  rw [isWhole, List.not_all_eq_any_not]
  simp only [Bool.not_not]

/-- A field with a whole name can be sent if its value can. -/
theorem unsendableFields_cons {k : String} (hk : isWhole k = true) (room : Nat) (v : Value)
    (rest : Fields) :
    unsendableFields room ((k, v) :: rest) = (isUnsendable room v || unsendableFields room rest) := by
  rw [unsendableFields, any_isHalf, hk]
  rfl

theorem unsendableItems_texts (room : Nat) (texts : List String) :
    unsendableItems (room + 1) (texts.map .text) = texts.any (!isWhole ·) := by
  induction texts with
  | nil => rfl
  | cons s rest ih => rw [List.map_cons, unsendableItems, isUnsendable, any_isHalf, ih, List.any_cons]

theorem finiteItems_texts (texts : List String) : finiteItems (texts.map .text) = texts.map .text := by
  induction texts with
  | nil => rfl
  | cons s rest ih => rw [List.map_cons, finiteItems, finiteValue, ih] <;> nofun

/-! ## Lists of records -/

/-- A record can be sent if its texts are whole and its payload is not nested too deeply. -/
theorem isUnsendable_record (r : Record) :
    isUnsendable (maxNesting - 1) r.toValue =
      (!isWhole r.id || (unsendableFields (maxNesting - 3) r.payload || r.labels.any (!isWhole ·))) := by
  have hpayload : isUnsendable (maxNesting - 2) (.object r.payload) =
      unsendableFields (maxNesting - 3) r.payload := rfl
  have hlabels : isUnsendable (maxNesting - 2) (.ofTexts r.labels) =
      r.labels.any (!isWhole ·) := unsendableItems_texts _ _
  have htext (s : String) : isUnsendable (maxNesting - 2) (.text s) = !isWhole s := any_isHalf s
  have hfields : isUnsendable (maxNesting - 1) r.toValue = unsendableFields (maxNesting - 2)
      [("id", .text r.id), ("payload", .object r.payload), ("labels", .ofTexts r.labels),
        ("createdAt", .text r.createdAt.text)] := rfl
  rw [hfields, unsendableFields_cons (by decide), unsendableFields_cons (by decide),
    unsendableFields_cons (by decide), unsendableFields_cons (by decide), htext, hpayload, hlabels, htext,
    isWhole_timestamp, unsendableFields]
  simp only [Bool.not_true, Bool.or_false]

theorem unsendableItems_records (records : List Record) :
    unsendableItems (maxNesting - 1) (records.map Record.toValue) = !records.all Record.isSendable := by
  induction records with
  | nil => rfl
  | cons r rest ih =>
    rw [List.map_cons, unsendableItems, ih, List.all_cons, Bool.not_and, Record.isSendable, Bool.not_not]

theorem unsendableFields_listing (records : List Record) :
    unsendableFields maxNesting (listing records) = !records.all Record.isSendable := by
  have hitems : isUnsendable maxNesting (.array (records.map Record.toValue)) =
      unsendableItems (maxNesting - 1) (records.map Record.toValue) := rfl
  rw [listing, unsendableFields_cons (by decide), unsendableFields_cons (by decide), hitems,
    unsendableItems_records, unsendableFields, Bool.or_false]
  rfl

theorem finiteValue_record (r : Record) : finiteValue r.toValue = r.finite.toValue := by
  simp only [Record.toValue, Value.ofTexts, Record.finite, finiteValue, finiteFields, finiteItems_texts]

theorem finiteItems_records (records : List Record) :
    finiteItems (records.map Record.toValue) = (records.map Record.finite).map Record.toValue := by
  induction records with
  | nil => rfl
  | cons r rest ih => rw [List.map_cons, finiteItems, ih, finiteValue_record, List.map_cons, List.map_cons]

/-- Records are listed with their finite payloads. -/
theorem finiteFields_listing (records : List Record) :
    finiteFields (listing records) = listing (records.map Record.finite) := by
  simp only [listing, finiteFields, finiteValue, finiteItems_records, List.length_map]

/-! ## Summaries -/

theorem unsendableFields_shares (shares : List LabelShare) (f : LabelShare → Value)
    (hf : ∀ l, isUnsendable (maxNesting - 1) (f l) = false) :
    unsendableFields (maxNesting - 1) (shares.map fun l => (l.label, f l)) =
      !shares.all fun l => isWhole l.label := by
  induction shares with
  | nil => rfl
  | cons l rest ih =>
    rw [List.map_cons, unsendableFields, any_isHalf, hf, ih, List.all_cons, Bool.not_and, Bool.or_false]

theorem unsendableFields_summary (x : Snapshot) :
    unsendableFields maxNesting x.fields = !x.isSendable := by
  have htotal : isUnsendable maxNesting (.int x.total) = false := rfl
  have hcounts : isUnsendable maxNesting (.object (x.shares.map fun l => (l.label, .int l.count))) =
      !x.shares.all fun l => isWhole l.label := unsendableFields_shares _ _ fun _ => rfl
  have hpercentages :
      isUnsendable maxNesting (.object (x.shares.map fun l => (l.label, .float l.percentage))) =
        !x.shares.all fun l => isWhole l.label := unsendableFields_shares _ _ fun _ => rfl
  have hupdated : isUnsendable maxNesting (.text x.updatedAt.text) = false := by
    rw [maxNesting, isUnsendable, any_isHalf, isWhole_timestamp]
    rfl
  have hrecent : isUnsendable maxNesting (.array (x.recent.map Record.toValue)) =
      !x.recent.all Record.isSendable := unsendableItems_records _
  rw [Snapshot.fields, unsendableFields_cons (by decide), unsendableFields_cons (by decide),
    unsendableFields_cons (by decide), unsendableFields_cons (by decide), unsendableFields_cons (by decide),
    htotal, hcounts, hpercentages, hupdated, hrecent, unsendableFields, Snapshot.isSendable, Bool.not_and]
  simp only [Bool.false_or, Bool.or_false, Bool.or_self_left]

/-! ## Halves -/

mutual

/-- There are no halves to be joined in what can be sent. -/
theorem joinedHalves_of_sendable : ∀ {room : Nat} {v : Value}, isUnsendable room v = false →
    Json.joinedHalves v = v
  | 0, _, h => by
    rw [isUnsendable] at h
    cases h
  | _ + 1, .text s, h => by
    rw [isUnsendable, any_isHalf, Bool.not_eq_false'] at h
    rw [Json.joinedHalves, joinedHalves_of_isWhole h]
  | _ + 1, .array items, h => by rw [Json.joinedHalves, joinedItems_of_sendable h]
  | _ + 1, .object fields, h => by rw [Json.joinedHalves, joinedFields_of_sendable h]
  | _ + 1, .null, _ | _ + 1, .bool _, _ | _ + 1, .int _, _ | _ + 1, .float _, _ | _ + 1, .moment _, _
  | _ + 1, .date _, _ | _ + 1, .bytes _, _ | _ + 1, .tuple _, _ | _ + 1, .set _, _
  | _ + 1, .mapping _, _ | _ + 1, .looped _ _, _ => rfl

theorem joinedItems_of_sendable : ∀ {room : Nat} {items : List Value},
    unsendableItems room items = false → Json.joinedItems items = items
  | _, [], _ => rfl
  | _, v :: rest, h => by
    rw [unsendableItems, Bool.or_eq_false_iff] at h
    rw [Json.joinedItems, joinedHalves_of_sendable h.1, joinedItems_of_sendable h.2]

theorem joinedFields_of_sendable : ∀ {room : Nat} {fields : List (String × Value)},
    unsendableFields room fields = false → Json.joinedFields fields = fields
  | _, [], _ => rfl
  | _, (k, v) :: rest, h => by
    rw [unsendableFields, Bool.or_eq_false_iff, Bool.or_eq_false_iff, any_isHalf, Bool.not_eq_false'] at h
    rw [Json.joinedFields, joinedHalves_of_isWhole h.1.1, joinedHalves_of_sendable h.1.2,
      joinedFields_of_sendable h.2]

end

end Http

namespace Record

variable {r : Record}

/-- A record can be sent if its identifier and its labels are whole, and its payload can be sent. -/
theorem isSendable_iff : r.isSendable = true ↔ isWhole r.id = true ∧
    Http.isSendablePayload r.payload = true ∧ ∀ l ∈ r.labels, isWhole l = true := by
  rw [isSendable, Http.isUnsendable_record, Http.isSendablePayload, Bool.not_eq_true', Bool.or_eq_false_iff,
    Bool.or_eq_false_iff, List.any_eq_false]
  simp only [Bool.not_eq_true', Bool.not_eq_false, Bool.not_eq_false']

/-- A record with whole labels loses nothing in columns, if its payload can be sent. -/
theorem joined_of_isSendable (h : r.isSendable = true) : r.joined = r := by
  obtain ⟨-, hpayload, hlabels⟩ := isSendable_iff.1 h
  have hall : r.labels.map joinedHalves = r.labels :=
    (List.map_congr_left fun l hl => joinedHalves_of_isWhole (hlabels l hl)).trans (List.map_id _)
  rw [Http.isSendablePayload, Bool.not_eq_true'] at hpayload
  rw [joined, Http.joinedFields_of_sendable hpayload, hall]

/-- A record is listed as it is just if the floats in its payload are finite. -/
theorem finite_eq_self_iff : r.finite = r ↔ Value.fieldsAreFinite r.payload = true := by
  rw [← Http.finiteFields_eq_self_iff]
  refine ⟨fun h => congrArg payload h, fun h => ?_⟩
  rw [finite, h]

end Record

/-- A summary of records that can be sent can be sent. -/
theorem Snapshot.isSendable_ofRecords {records : List Record} (h : records.all Record.isSendable = true)
    (now : Timestamp) (c : Criteria) : (Snapshot.ofRecords now c records).isSendable = true := by
  rw [List.all_eq_true] at h
  have hselected : ∀ r ∈ Record.select now c records, r.isSendable = true :=
    fun r hr => h r (List.mem_filter.1 hr).1
  have hlabels := Tally.forall_ofRecords fun r hr => (Record.isSendable_iff.1 (hselected r hr)).2.2
  rw [isSendable, Bool.and_eq_true, List.all_eq_true, List.all_eq_true]
  constructor
  · intro share hshare
    obtain ⟨x, hx, rfl⟩ := List.mem_map.1 hshare
    exact hlabels x hx
  · intro r hr
    exact hselected r (mem_newestFirst (List.mem_of_mem_take hr))

end RuleLabels
