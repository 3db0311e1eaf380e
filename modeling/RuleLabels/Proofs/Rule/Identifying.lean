import RuleLabels.Proofs.Fields
import RuleLabels.Proofs.Rule.Locating
import RuleLabels.Proofs.Rule.Rereading

/-!
# New identifiers of written rules

The loader of a file looks at each written rule first.  One that lacks an identifier is read with a new one, and
any other is read as it stands.

* `Value.lacksId_eq_true_iff`: which written rules lack an identifier;
* `run_load_eq`: what is loaded from a file, in terms of `identifiedFrom`;
* `hasFault_of_isIdentified` and `loadsAs_of_isIdentified`: a written rule has the faults that are found when it
  is read with a new identifier, and which identifier a rule gets.
-/

namespace RuleLabels

/-! ## Objects with another identifier -/

/-- Fields of which only the identifier is another one. -/
structure Fields.IsRenamed (fields fields' : Fields) (id : String) : Prop where
  id : fields'.get? "id" = some (.text id)
  others : ∀ name, name ≠ "id" → fields'.get? name = fields.get? name

namespace Fields.IsRenamed

variable {fields fields' : Fields} {id : String}

theorem present?_eq (h : fields.IsRenamed fields' id) {name : String} (hname : name ≠ "id") :
    fields'.present? name = fields.present? name :=
  present?_congr (h.others name hname)

theorem readRequired_eq {α : Type} (h : fields.IsRenamed fields' id) {name : String} (hname : name ≠ "id")
    (read : Value → Path → Checked α) : fields'.readRequired name read = fields.readRequired name read := by
  funext path
  unfold readRequired require
  rw [h.present?_eq hname]

theorem require_eq (h : fields.IsRenamed fields' id) {name : String} (hname : name ≠ "id") :
    fields'.require name = fields.require name := by
  funext path
  unfold require
  rw [h.present?_eq hname]

theorem firstPresent?_eq (h : fields.IsRenamed fields' id) {names : List String} (hnames : "id" ∉ names) :
    fields'.firstPresent? names = fields.firstPresent? names := by
  induction names with
  | nil => rfl
  | cons name rest ih =>
    obtain ⟨hname, hrest⟩ := List.ne_and_not_mem_of_not_mem_cons hnames
    have ih := ih hrest
    unfold firstPresent? at ih ⊢
    rw [List.findSome?_cons, List.findSome?_cons, h.present?_eq (Ne.symm hname), ih]

theorem faultOf_timestamp?_eq (h : fields.IsRenamed fields' id) {names : List String} (hnames : "id" ∉ names) :
    (fields'.firstName names, faultOf (fields'.timestamp? names)) =
      (fields.firstName names, faultOf (fields.timestamp? names)) := by
  have htimestamp : fields'.timestamp? names = fields.timestamp? names := by
    funext path
    unfold timestamp?
    rw [h.firstPresent?_eq hnames]
  unfold firstName
  rw [htimestamp, h.firstPresent?_eq hnames]

end Fields.IsRenamed

namespace Rule

/-- An object with another identifier has its other fields. -/
theorem exists_isRenamed_withId (id : String) {v : Value} {fields : Fields} (h : v.fields? = some fields) :
    ∃ fields', (withId id v).fields? = some fields' ∧ fields.IsRenamed fields' id := by
  fun_induction withId id v with
  | case1 found =>
    cases h
    exact ⟨_, rfl, by rw [Fields.get?_set, if_pos rfl], fun name hname => by rw [Fields.get?_set, if_neg hname]⟩
  | case2 entries =>
    cases h
    refine ⟨_, rfl, ?_, fun name hname => ?_⟩
    · rw [Value.get?_textEntries_putEntry, if_pos rfl]
    · rw [Value.get?_textEntries_putEntry, if_neg hname]
  | case3 shown v ih => exact ih h
  | case4 v hobject hmapping hlooped =>
    cases v with
    | object found => exact absurd rfl (hobject found)
    | mapping entries => exact absurd rfl (hmapping entries)
    | looped shown v => exact absurd rfl (hlooped shown v)
    | _ => cases h

/-! ## Written rules that lack an identifier -/

end Rule

namespace Value

/-- A value that counts as no identifier, although it is neither null nor the empty text: false, a zero, no
bytes, and any other collection without items. -/
inductive IsVoid : Value → Prop where
  | off : IsVoid (.bool false)
  | zero : IsVoid (.int 0)
  | floatZero {x : Binary64} : x.units? = some 0 → IsVoid (.float x)
  | bytes : IsVoid (.bytes [])
  | array : IsVoid (.array [])
  | object : IsVoid (.object [])
  | tuple : IsVoid (.tuple [])
  | set : IsVoid (.set [])
  | mapping : IsVoid (.mapping [])
  | looped {shown : String} {v : Value} : v.isHollow = true → IsVoid (.looped shown v)

theorem isHollow_eq_true_iff {v : Value} : v.isHollow = true ↔ v.isNull = true ∨ v = .text "" ∨ v.IsVoid := by
  constructor
  · intro h
    cases v with
    | null => exact .inl rfl
    | text s => exact .inr (.inl (by simpa [isHollow] using h))
    | bool b =>
      cases b with
      | false => exact .inr (.inr .off)
      | true => cases h
    | int i =>
      obtain rfl : i = 0 := of_decide_eq_true h
      exact .inr (.inr .zero)
    | float x => exact .inr (.inr (.floatZero (of_decide_eq_true h)))
    | moment m => cases h
    | date d => cases h
    | bytes b =>
      obtain rfl : b = [] := List.isEmpty_iff.1 h
      exact .inr (.inr .bytes)
    | array items =>
      obtain rfl : items = [] := List.isEmpty_iff.1 h
      exact .inr (.inr .array)
    | object fields =>
      obtain rfl : fields = [] := List.isEmpty_iff.1 h
      exact .inr (.inr .object)
    | tuple items =>
      obtain rfl : items = [] := List.isEmpty_iff.1 h
      exact .inr (.inr .tuple)
    | set items =>
      obtain rfl : items = [] := List.isEmpty_iff.1 h
      exact .inr (.inr .set)
    | mapping entries =>
      obtain rfl : entries = [] := List.isEmpty_iff.1 h
      exact .inr (.inr .mapping)
    | looped shown v => exact .inr (.inr (.looped h))
  · rintro (h | rfl | h)
    · cases v with
      | null => rfl
      | _ => cases h
    · rfl
    · cases h with
      | floatZero h => exact decide_eq_true h
      | looped h => exact h
      | _ => rfl

/-- **Which written rules lack an identifier**: objects whose identifier is missing or null, the empty text, or
void. -/
theorem lacksId_eq_true_iff {v : Value} :
    v.lacksId = true ↔ ∃ fields, v.fields? = some fields ∧
      (fields.present? "id" = none ∨ fields.get? "id" = some (.text "") ∨
        ∃ w, fields.get? "id" = some w ∧ w.IsVoid) := by
  unfold lacksId
  cases hf : v.fields? with
  | none => simp
  | some fields =>
    have hhollow : ((fields.get? "id").getD .null).isHollow = true ↔
        fields.present? "id" = none ∨ fields.get? "id" = some (.text "") ∨
          ∃ w, fields.get? "id" = some w ∧ w.IsVoid := by
      rw [isHollow_eq_true_iff, Fields.present?_eq_none_iff]
      cases hid : fields.get? "id" with
      | none => simp [isNull]
      | some w => cases w <;> simp [isNull]
    simp only [hhollow, Option.some.injEq, exists_eq_left']

end Value

namespace Rule

/-- Written rules, of which each that lacks an identifier has the next new one. -/
def identifiedFrom (ids : IdSource) : List Value → List Value
  | [] => []
  | v :: rest =>
    if v.lacksId then withId (idOf ids.next) v :: identifiedFrom ids.rest rest else v :: identifiedFrom ids rest

theorem run_identified_of_lacking {v : Value} (h : v.lacksId = true) (w : World) :
    ExceptT.run (identified v) w = (.ok (withId (idOf w.ids.next) v), { w with ids := w.ids.rest }) := by
  unfold identified
  unfold Value.lacksId at h
  split
  · rename_i fields hfields
    simp only [hfields] at h
    rw [if_pos h]
    rfl
  · rename_i hfields
    simp only [hfields] at h
    cases h

theorem run_identifiedEach_eq (vs : List Value) (w : World) :
    ∃ ids, ExceptT.run (identifiedEach vs) w = (.ok (identifiedFrom w.ids vs), { w with ids }) := by
  induction vs generalizing w with
  | nil => exact ⟨w.ids, rfl⟩
  | cons v rest ih =>
    unfold identifiedEach identifiedFrom
    by_cases hv : v.lacksId = true
    · obtain ⟨ids, hrest⟩ := ih { w with ids := w.ids.rest }
      refine ⟨ids, ?_⟩
      rw [if_pos hv, Action.run_bind_ok (run_identified_of_lacking hv w), Action.run_bind_ok hrest]
      rfl
    · obtain ⟨ids, hrest⟩ := ih w
      refine ⟨ids, ?_⟩
      rw [if_neg hv, Action.run_bind_ok (run_identified_of_own (Bool.eq_false_iff.2 hv) w),
        Action.run_bind_ok hrest]
      rfl

theorem identifiedFrom_of_own {vs : List Value} (h : ∀ v ∈ vs, v.lacksId = false) (ids : IdSource) :
    identifiedFrom ids vs = vs := by
  induction vs with
  | nil => rfl
  | cons v rest ih =>
    obtain ⟨hv, hrest⟩ := List.forall_mem_cons.1 h
    unfold identifiedFrom
    rw [if_neg (Bool.eq_false_iff.1 hv), ih hrest]

/-! ## What is loaded -/

/-- The rules of a file are read from its written rules with identifiers. -/
theorem run_load_eq {l : Location} {w : World} {vs : List Value} (h : Lists l w vs) :
    ∃ ids, ExceptT.run (load l) w =
      ((readItems w.now .document (identifiedFrom w.ids vs)).mapError .ofInvalid, { w with ids }) := by
  obtain ⟨v, hread, hitems⟩ := h
  obtain ⟨r, hr⟩ := run_readDocument_of_content l (w.files.content l)
  rw [hr w rfl] at hread
  cases hread
  obtain ⟨ids, hids⟩ := run_identifiedEach_eq vs w
  refine ⟨ids, ?_⟩
  unfold load
  rw [Action.run_bind_ok (hr w rfl)]
  simp only [hitems]
  rw [Action.run_bind_ok hids, Action.run_bind_ok (Action.run_now _)]
  show ExceptT.run (Action.ofChecked (readItems w.now .document (identifiedFrom w.ids vs))) _ = _
  cases readItems w.now .document (identifiedFrom w.ids vs) with
  | error e => rfl
  | ok rules => rfl

/-! ## Faults and identifiers -/

/-- A written rule as the loader reads it. -/
inductive IsIdentified (v : Value) : Value → Prop where
  /-- One with an identifier as it stands. -/
  | own : v.lacksId = false → IsIdentified v v
  /-- One without an identifier with a new one. -/
  | new (ids : IdSource) : v.lacksId = true → IsIdentified v (withId (idOf ids.next) v)

theorem forall₂_identifiedFrom (vs : List Value) (ids : IdSource) :
    vs.Forall₂ IsIdentified (identifiedFrom ids vs) := by
  induction vs generalizing ids with
  | nil => exact .nil
  | cons v rest ih =>
    unfold identifiedFrom
    by_cases hv : v.lacksId = true
    · rw [if_pos hv]
      exact .cons (.new ids hv) (ih ids.rest)
    · rw [if_neg hv]
      exact .cons (.own (Bool.eq_false_iff.2 hv)) (ih ids)

theorem length_identifiedFrom (vs : List Value) (ids : IdSource) : (identifiedFrom ids vs).length = vs.length :=
  (forall₂_identifiedFrom vs ids).length_eq.symm

/-- A written rule with an identifier stands among the others as it is. -/
theorem identifiedFrom_append_own {m : Value} (hm : m.lacksId = false) (before after : List Value)
    (ids : IdSource) :
    ∃ rest, identifiedFrom ids (before ++ m :: after) = identifiedFrom ids before ++ m :: rest := by
  induction before generalizing ids with
  | nil =>
    refine ⟨identifiedFrom ids after, ?_⟩
    show identifiedFrom ids (m :: after) = m :: identifiedFrom ids after
    rw [identifiedFrom, if_neg (Bool.eq_false_iff.1 hm)]
  | cons v before ih =>
    rw [List.cons_append]
    unfold identifiedFrom
    by_cases hv : v.lacksId = true
    · obtain ⟨rest, hrest⟩ := ih ids.rest
      exact ⟨rest, by rw [if_pos hv, if_pos hv, hrest, List.cons_append]⟩
    · obtain ⟨rest, hrest⟩ := ih ids
      exact ⟨rest, by rw [if_neg hv, if_neg hv, hrest, List.cons_append]⟩

/-- A list is refused for the first rule in it that is. -/
theorem readItems_append_error {now : Timestamp} {path : Path} {before after : List Value} {m : Value}
    {rules : List Rule} {e : Invalid} (hbefore : readEach now path 0 before = .ok rules)
    (hm : read now m (path.index before.length) = .error e) :
    readItems now path (before ++ m :: after) = .error e := by
  have heach : ∀ (i : Nat) (rules : List Rule), readEach now path i before = .ok rules →
      read now m (path.index (i + before.length)) = .error e →
        readEach now path i (before ++ m :: after) = .error e := by
    clear hbefore hm
    induction before with
    | nil =>
      intro i rules _ hm
      have hm : read now m (path.index i) = .error e := hm
      rw [List.nil_append, readEach, hm]
    | cons v before ih =>
      intro i rules hbefore hm
      rw [readEach] at hbefore
      rw [List.cons_append, readEach]
      split at hbefore
      · cases hbefore
      · rename_i r hr
        obtain ⟨others, hothers, -⟩ := except_map_eq_ok.1 hbefore
        have hplace : i + 1 + before.length = i + (v :: before).length := by
          rw [List.length_cons]
          omega
        rw [ih (i + 1) others hothers (by rwa [hplace])]
        rfl
  have hlist : readEach now path 0 (before ++ m :: after) = .error e :=
    heach 0 rules hbefore (by rwa [Nat.zero_add])
  unfold readItems
  rw [hlist]
  rfl

/-- A rule with an identifier that is not accepted is refused for it. -/
theorem read_of_readId_eq_error {now : Timestamp} {v w : Value} {fields : Fields} {path : Path} {fault : Fault}
    (hf : v.fields? = some fields) (hw : fields.present? "id" = some w) (hid : faultOf w.readId = some fault) :
    read now v path = .error ⟨path.field "id", fault⟩ := by
  have hfirst : Fields.firstFault? (checksBefore fields) = some ("id", fault) := by
    unfold checksBefore
    rw [Fields.faultOf_readRequired_of_present? w.pointsAt_readId hw, hid]
    rfl
  exact read_eq_error_iff.2 ⟨_, _, .before hf hfirst, rfl⟩

/-- With a new identifier the first check passes, and the others find what they find without it. -/
theorem checksBefore_of_isRenamed {fields fields' : Fields} {id : String} (hid : Text.allBlank id = false)
    (h : fields.IsRenamed fields' id) : checksBefore fields' = ("id", none) :: (checksBefore fields).tail := by
  have hread : faultOf (fields'.readRequired "id" Value.readId) = none := by
    have hok : fields'.readRequired "id" Value.readId .here = .ok id :=
      except_bind_eq_ok.2 ⟨.text id, Fields.require_eq_ok_iff.2 ⟨h.id, rfl⟩, Value.readId_text hid _⟩
    unfold faultOf
    rw [hok]
  unfold checksBefore
  rw [hread, h.readRequired_eq (by decide), h.readRequired_eq (by decide), h.require_eq (by decide), List.tail_cons]

theorem checksAfter_of_isRenamed {fields fields' : Fields} {id : String} (h : fields.IsRenamed fields' id) :
    checksAfter fields' = checksAfter fields := by
  unfold checksAfter
  rw [h.others "priority" (by decide), h.others "enabled" (by decide), h.faultOf_timestamp?_eq (by decide),
    h.faultOf_timestamp?_eq (by decide)]

variable {named : Value → String → Prop}

/-- **A written rule has the faults that are found when it is loaded**: a new identifier hides the fault of the
one that is lacking, and no other. -/
theorem hasFault_of_isIdentified {v g : Value} (h : IsIdentified v g) {steps : List Step} {fault : Fault}
    (hfault : FirstFault g steps fault) : v.HasFault named steps fault := by
  cases h with
  | own _ => exact hfault.hasFault
  | new ids hv =>
    obtain ⟨fields, hf, -⟩ := Value.lacksId_eq_true_iff.1 hv
    obtain ⟨fields', hf', hrenamed⟩ := exists_isRenamed_withId (idOf ids.next) hf
    have hsame {found : Fields} (hfound : (withId (idOf ids.next) v).fields? = some found) : found = fields' :=
      Option.some.inj (hfound.symm.trans hf')
    cases hfault with
    | notAnObject hnone => cases hnone.symm.trans hf'
    | before hfound hfirst =>
      obtain rfl := hsame hfound
      have hmem := Fields.mem_of_firstFault? hfirst
      rw [checksBefore_of_isRenamed (not_allBlank_idOf _) hrenamed] at hmem
      rcases List.mem_cons.1 hmem with hid | hmem
      · cases hid
      · exact hasFault_of_mem_checksBefore hf (List.mem_of_mem_tail hmem)
    | conditions hfound _ hw hfault =>
      obtain rfl := hsame hfound
      rw [hrenamed.present?_eq (by decide)] at hw
      exact .under (Value.reach?_field hf (Fields.lookup_of_present? hw)) hfault.hasFault
    | after hfound _ _ _ hfirst =>
      obtain rfl := hsame hfound
      rw [checksAfter_of_isRenamed hrenamed] at hfirst
      exact hasFault_of_mem_checksAfter hf (Fields.mem_of_firstFault? hfirst)

end Rule

/-- A written rule is loaded with an identifier: with the one that it has, or with a new one if it lacks one. -/
def Value.LoadsAs (v : Value) (id : String) : Prop :=
  if v.lacksId then ∃ ids : IdSource, id = Rule.idOf ids.next else v.WritesId id

theorem Rule.loadsAs_of_isIdentified {now : Timestamp} {v g : Value} {path : Path} {r : Rule}
    (h : IsIdentified v g) (hread : read now g path = .ok r) : v.LoadsAs r.id := by
  have hid := writesId_of_read hread
  unfold Value.LoadsAs
  cases h with
  | own hv =>
    rw [if_neg (Bool.eq_false_iff.1 hv)]
    exact hid
  | new ids hv =>
    obtain ⟨fields, hf, -⟩ := Value.lacksId_eq_true_iff.1 hv
    obtain ⟨fields', hf', hrenamed⟩ := exists_isRenamed_withId (idOf ids.next) hf
    rw [Value.WritesId, hf', Option.bind_some, hrenamed.id, Option.map_some] at hid
    rw [if_pos hv]
    exact ⟨ids, (Option.some.inj hid).symm⟩

end RuleLabels
