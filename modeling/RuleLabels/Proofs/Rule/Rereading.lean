import Mathlib.Data.List.Forall2
import Mathlib.Tactic.Common
import RuleLabels.Proofs.Rule.Loading

/-!
# Loading a file again

What a written rule says does not depend on when it is read, except for the times that it leaves out, and a
written rule that has an identifier keeps it.  So a file in which every rule has its own identifier gives the
same rules whenever it is loaded, with other times where it tells none.

* `read_again`: a written rule that is read at another time;
* `load_again`: a file that is loaded once more.
-/

namespace RuleLabels

/-- A written rule tells when it was created. -/
def Value.tellsCreation (v : Value) : Bool :=
  (v.fields?.bind fun fields => fields.firstPresent? ["createdAt", "created_at"]).isSome

/-- A written rule that gets an identifier when it is loaded. -/
def Value.lacksId (v : Value) : Bool :=
  match v.fields? with
  | some fields => ((fields.get? "id").getD .null).isHollow
  | none => false

namespace Rule

/-- A rule was read from a document from which another one had been read: they do not differ but in their
times, and in the time of creation only if the document does not tell it. -/
structure IsReread (v : Value) (r r' : Rule) : Prop where
  reads : ∃ now path, read now v path = .ok r'
  same : r' = { r with createdAt := r'.createdAt, updatedAt := r'.updatedAt }
  created : v.tellsCreation = true → r'.createdAt = r.createdAt

theorem IsReread.id_eq {v : Value} {r r' : Rule} (h : IsReread v r r') : r'.id = r.id := by
  rw [h.same]

/-! ## Documents -/

/-- A time that is present is read from its field. -/
theorem isSome_of_timestamp? {fields : Fields} {names : List String} {path : Path} {t : Option Timestamp}
    (h : fields.timestamp? names path = .ok t) (hpresent : (fields.firstPresent? names).isSome = true) :
    t.isSome = true := by
  obtain ⟨⟨name, v⟩, hfield⟩ := Option.isSome_iff_exists.1 hpresent
  rw [Fields.timestamp?, hfield] at h
  obtain ⟨_, -, rfl⟩ := except_map_eq_ok.1 h
  rfl

/-- **A rule can be read at any other time**, and differs at most in the times that are not written. -/
theorem read_again {now : Timestamp} {v : Value} {path : Path} {r : Rule} (h : read now v path = .ok r)
    (now' : Timestamp) : ∃ r', read now' v path = .ok r' ∧ IsReread v r r' := by
  simp only [read, except_bind_eq_ok] at h
  obtain ⟨fields, hfields, idValue, hidValue, id, hid, name, hname, label, hlabel, conditionsValue,
    hconditionsValue, conditions, hconditions, priority, hpriority, enabled, henabled, created, hcreated,
    updated, hupdated, hr⟩ := h
  cases hr
  let created' := created.getD now'
  let r' : Rule := ⟨id, name, label, conditions, priority, enabled, created', updated.getD created'⟩
  have hread : read now' v path = .ok r' := by
    simp only [read, except_bind_eq_ok]
    exact ⟨fields, hfields, idValue, hidValue, id, hid, name, hname, label, hlabel, conditionsValue,
      hconditionsValue, conditions, hconditions, priority, hpriority, enabled, henabled, created, hcreated,
      updated, hupdated, rfl⟩
  refine ⟨r', hread, ⟨now', path, hread⟩, rfl, fun htells => ?_⟩
  have hfound : v.fields? = some fields := by
    rw [Value.fields] at hfields
    split at hfields
    · rename_i fields' hfields'
      cases hfields
      exact hfields'
    · exact absurd hfields refuse_ne_ok
  rw [Value.tellsCreation, hfound, Option.bind_some] at htells
  obtain ⟨c, hc⟩ := Option.isSome_iff_exists.1 (isSome_of_timestamp? hcreated htells)
  subst hc
  rfl

/-- The rules in a list of documents can be read at any other time. -/
theorem readEach_again {now : Timestamp} {path : Path} {i : Nat} {vs : List Value} {rules : List Rule}
    (h : readEach now path i vs = .ok rules) (now' : Timestamp) :
    ∃ rules', readEach now' path i vs = .ok rules' ∧
      rules.Forall₂ (fun r r' => ∃ v ∈ vs, IsReread v r r') rules' := by
  induction vs generalizing i rules with
  | nil =>
    cases h
    exact ⟨[], rfl, .nil⟩
  | cons v rest ih =>
    rw [readEach] at h
    split at h
    · cases h
    · rename_i r hr
      obtain ⟨others, hothers, rfl⟩ := except_map_eq_ok.1 h
      obtain ⟨r', hr', hreread⟩ := read_again hr now'
      obtain ⟨others', hothers', hrest⟩ := ih hothers
      refine ⟨r' :: others', ?_, .cons ⟨v, List.mem_cons_self, hreread⟩ (hrest.imp ?_)⟩
      · rw [readEach, hr', hothers']
        rfl
      · rintro s s' ⟨v', hv', hs⟩
        exact ⟨v', List.mem_cons_of_mem v hv', hs⟩

theorem map_id_of_forall₂ {vs : List Value} {rules rules' : List Rule}
    (h : rules.Forall₂ (fun r r' => ∃ v ∈ vs, IsReread v r r') rules') :
    rules'.map Rule.id = rules.map Rule.id := by
  induction h with
  | nil => rfl
  | cons hr _ ih =>
    obtain ⟨v, -, hr⟩ := hr
    rw [List.map_cons, List.map_cons, hr.id_eq, ih]

/-- Of rules only the identifiers decide whether one of them repeats another one. -/
theorem checkDistinct_congr {path : Path} {rules rules' : List Rule}
    (h : rules'.map Rule.id = rules.map Rule.id) (i : Nat) (seen : List String) :
    checkDistinct path i seen rules' = checkDistinct path i seen rules := by
  induction rules generalizing rules' i seen with
  | nil => rw [List.map_eq_nil_iff.1 h]
  | cons r rest ih =>
    obtain ⟨r', rest', rfl, hid, hrest⟩ := List.map_eq_cons_iff.1 h
    rw [checkDistinct, checkDistinct, hid, ih hrest]

/-- The rules in an array can be read at any other time. -/
theorem readAll_again {now : Timestamp} {vs : List Value} {path : Path} {rules : List Rule}
    (h : readAll now (.array vs) path = .ok rules) (now' : Timestamp) :
    ∃ rules', readAll now' (.array vs) path = .ok rules' ∧
      rules.Forall₂ (fun r r' => ∃ v ∈ vs, IsReread v r r') rules' := by
  simp only [readAll, Value.fields?, Value.items?, Option.bind_none, except_bind_eq_ok] at h ⊢
  obtain ⟨_, hread, _, hdistinct, hrules⟩ := h
  cases hrules
  obtain ⟨rules', hread', hagain⟩ := readEach_again hread now'
  refine ⟨rules', ⟨rules', hread', (), ?_, rfl⟩, hagain⟩
  rw [checkDistinct_congr (map_id_of_forall₂ hagain), hdistinct]

/-! ## Files -/

/-- A written rule that does not lack an identifier is left as it is. -/
theorem run_identified_of_own {v : Value} (h : v.lacksId = false) (w : World) :
    ExceptT.run (identified v) w = (.ok v, w) := by
  rw [identified]
  rw [Value.lacksId] at h
  split
  · rename_i fields hfields
    simp only [hfields] at h
    rw [if_neg (by rw [h]; exact Bool.false_ne_true)]
    rfl
  · rfl

theorem run_identifiedEach_of_own {vs : List Value} (h : ∀ v ∈ vs, v.lacksId = false) (w : World) :
    ExceptT.run (identifiedEach vs) w = (.ok vs, w) := by
  induction vs with
  | nil => rfl
  | cons v rest ih =>
    obtain ⟨hv, hrest⟩ := List.forall_mem_cons.1 h
    rw [identifiedEach, Action.run_bind_ok (run_identified_of_own hv w), Action.run_bind_ok (ih hrest)]
    rfl

/-- The written rules in a file. -/
def Lists (l : Location) (w : World) (vs : List Value) : Prop :=
  ∃ v, (ExceptT.run (readDocument l) w).1 = .ok v ∧ itemsOf? v = some vs

variable {l : Location} {w w' : World} {vs : List Value} {rules : List Rule}

/-- Written rules that lack no identifier are loaded as they are read. -/
theorem Lists.run_load (h : Lists l w vs) (hown : ∀ v ∈ vs, v.lacksId = false)
    (hcontent : w'.files.content l = w.files.content l) :
    ExceptT.run (load l) w' = ((readAll w'.now (.array vs) .document).mapError .ofInvalid, w') := by
  obtain ⟨v, hread, hitems⟩ := h
  obtain ⟨r, hr⟩ := run_readDocument_of_content l (w.files.content l)
  rw [hr w rfl] at hread
  cases hread
  rw [load, Action.run_bind_ok (hr w' hcontent)]
  simp only [hitems]
  rw [Action.run_bind_ok (run_identifiedEach_of_own hown w'), Action.run_bind_ok (Action.run_now w')]
  cases readAll w'.now (.array vs) .document with
  | error e => rfl
  | ok rules => rfl

/-- **A file that was loaded can be loaded again**, at any time at which it has the same content, and gives the
same rules with other times at most where it does not tell them, if no written rule in it lacks an
identifier. -/
theorem load_again (h : Lists l w vs) (hown : ∀ v ∈ vs, v.lacksId = false)
    (hload : (ExceptT.run (load l) w).1 = .ok rules) (hcontent : w'.files.content l = w.files.content l) :
    ∃ rules', ExceptT.run (load l) w' = (.ok rules', w') ∧
      rules.Forall₂ (fun r r' => ∃ v ∈ vs, IsReread v r r') rules' := by
  rw [h.run_load hown rfl] at hload
  cases hread : readAll w.now (.array vs) .document with
  | error e =>
    rw [hread] at hload
    exact nomatch hload
  | ok rules₁ =>
    rw [hread] at hload
    cases hload
    obtain ⟨rules', hread', hagain⟩ := readAll_again hread w'.now
    refine ⟨rules', ?_, hagain⟩
    rw [h.run_load hown hcontent, hread']
    rfl

end Rule

end RuleLabels
