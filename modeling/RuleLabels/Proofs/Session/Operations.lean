import Mathlib.Tactic.Common
import RuleLabels.Proofs.Session.Plain
import RuleLabels.Proofs.Session.Twins

/-!
# Twins agree on every operation

An operation suits a session if what comes of it is plain and if the identifiers that it is given are new.
Twin sessions agree on every operation that suits them, and are twins after it, whether it succeeds or not.
-/

namespace RuleLabels

/-! ## Suitable operations -/

/-- What a store of any kind can keep comes of an operation: whole texts, payloads of JSON, priorities of no
more than 64 bits, and rules and records with new identifiers. Texts are whole if they have no halves of
characters; the private characters that stand for halves are left out with them. -/
def Operation.Suits (s : Session) : Operation → Prop
  | create fields =>
    (∀ rules, (s.run Service.rules).1 = .ok rules → Rule.idOf s.world.ids.next ∉ rules.map Rule.id) ∧
      ∀ d, Draft.read fields = .ok d → d.IsPlain
  | update _ fields => ∀ c, Change.read fields = .ok c → c.IsPlain
  | load l _ => ∀ rules, (s.run (liftM (Rule.load l))).1 = .ok rules → ∀ r ∈ rules, r.IsPlain
  | process payload =>
    (∀ records, (s.run Service.records).1 = .ok records → s.world.ids.next ∉ records.map Record.id) ∧
      payload.isJson = true
  | _ => True

/-- The file that an operation loads. -/
def Operation.file? : Operation → Option Location
  | load l _ => some l
  | _ => none

namespace Session.Twins

variable {base : Files} {ls : List Location} {k : Stock} {s t : Session}

theorem run_rules (h : Twins base ls k s t) :
    s.run Service.rules = (.ok k.rules, s) ∧ t.run Service.rules = (.ok k.rules, t) := by
  rw [Session.run_rules, Session.run_rules, run_lift (Store.run_rules h.memory_holds h.sound),
    run_lift (Store.run_rules h.holds h.sound)]
  exact ⟨rfl, rfl⟩

theorem run_records (h : Twins base ls k s t) :
    s.run Service.records = (.ok k.records, s) ∧ t.run Service.records = (.ok k.records, t) := by
  rw [Session.run_records, Session.run_records, run_lift (Store.run_records h.memory_holds h.sound),
    run_lift (Store.run_records h.holds h.sound)]
  exact ⟨rfl, rfl⟩

/-- Twins agree on a service and are twins after it. -/
def StayOn {α : Type} (base : Files) (ls : List Location) (k : Stock) (s t : Session) (x : Service α) :
    Prop :=
  AgreeOn base ls k s t x fun _ s' t' => ∃ k', Twins base ls k' s' t'

/-- Twins send a message at the end of a service. -/
theorem stay_log (h : Twins base ls k s t) {fail : Session → Session → Prop} (level : Level)
    (sender message : String) {α : Type} (a : α) :
    Agree fail (fun _ s' t' => ∃ k', Twins base ls k' s' t')
      (s.run do
        Action.log level sender message
        return a)
      (t.run do
        Action.log level sender message
        return a) := by
  refine .bind (h.agree_log level sender message) ?_
  intro _ s' t' hlogged
  exact .pure ⟨k, hlogged⟩

/-! ## Rules -/

theorem agree_rule (h : Twins base ls k s t) (id : String) :
    AgreeOn base ls k s t (Service.rule id) fun _ s' t' => s' = s ∧ t' = t := by
  refine .bind h.agree_rules ?_
  rintro _ s t ⟨rfl, rfl, rfl⟩
  split
  · exact .pure ⟨rfl, rfl⟩
  · exact .throw _ h

theorem stay_createRule (h : Twins base ls k s t) {fields : Fields}
    (hnew : Rule.idOf s.world.ids.next ∉ k.rules.map Rule.id)
    (hplain : ∀ d, Draft.read fields = .ok d → d.IsPlain) :
    StayOn base ls k s t (Service.createRule fields) := by
  refine .bind (.ofChecked _ h) ?_
  rintro _ s t ⟨-, rfl, rfl⟩
  refine .bind h.agree_now ?_
  rintro now s t ⟨rfl, rfl⟩
  refine .bind (h.agree_ids (fun ids => Rule.idOf ids.next) IdSource.rest Rule.run_freshId) ?_
  rintro _ s₁ t₁ ⟨rfl, h₁⟩
  refine .bind (.ofChecked _ h₁) ?_
  rintro d s₁ t₁ ⟨hd, rfl, rfl⟩
  refine .bind h₁.agree_rules ?_
  rintro _ s₁ t₁ ⟨rfl, rfl, rfl⟩
  have hvalid := Draft.isValid_toRule hd (Rule.not_allBlank_idOf s.world.ids.next) now
  have hrule := Draft.isPlain_toRule (hplain d hd) (isWhole_idOf (isWhole_next s.world.ids)) now
  refine .bind (h₁.agree_saveRules (h.sound.of_rules (h.sound.orderly.append hvalid hnew) ?_)) ?_
  · intro r hr
    rcases List.mem_append.1 hr with hr | hr
    · exact h.sound.plain r hr
    · rw [List.mem_singleton.1 hr]
      exact hrule
  · intro _ s₂ t₂ h₂
    exact h₂.stay_log _ _ _ _

theorem stay_changeRule (h : Twins base ls k s t) (id : String) {c : Change} (hplain : c.IsPlain)
    (hvalid : ∀ now r, r.IsValid → (c.apply now r).IsValid) :
    StayOn base ls k s t (Service.changeRule id c) := by
  refine .bind h.agree_rules ?_
  rintro _ s t ⟨rfl, rfl, rfl⟩
  split
  · exact .throw _ h
  · refine .bind h.agree_now ?_
    rintro now s t ⟨rfl, rfl⟩
    have horderly : Rule.AreOrderly (Rule.editFirst id (c.apply now) k.rules) :=
      h.sound.orderly.editFirst (fun r hr => hr) (hvalid now)
    refine .bind (h.agree_saveRules (h.sound.of_rules horderly ?_)) ?_
    · intro r hr
      rcases Rule.mem_editFirst hr with hr | ⟨r', hr', rfl⟩
      · exact h.sound.plain r hr
      · exact Change.isPlain_apply hplain (h.sound.plain r' hr') now
    · intro _ s₂ t₂ h₂
      exact h₂.stay_log _ _ _ _

theorem stay_updateRule (h : Twins base ls k s t) (id : String) {fields : Fields}
    (hplain : ∀ c, Change.read fields = .ok c → c.IsPlain) :
    StayOn base ls k s t (Service.updateRule id fields) := by
  refine .bind (.ofChecked _ h) ?_
  rintro c s t ⟨hc, rfl, rfl⟩
  exact h.stay_changeRule id (hplain c hc) fun now _ hr => Change.isValid_apply hc hr now

theorem stay_deleteRule (h : Twins base ls k s t) (id : String) :
    StayOn base ls k s t (Service.deleteRule id) := by
  refine .bind h.agree_rules ?_
  rintro _ s t ⟨rfl, rfl, rfl⟩
  dsimp only
  split
  · have hthrow : Agree (Twins base ls k) (fun (_ : PUnit) _ _ => False)
        (s.run (throw (.ruleNotFound id))) (t.run (throw (.ruleNotFound id))) := .throw _ h
    exact .bind hthrow fun _ _ _ hfalse => hfalse.elim
  · have horderly := h.sound.orderly.withoutId id
    refine .bind (h.agree_saveRules (h.sound.of_rules horderly ?_)) ?_
    · exact fun r hr => h.sound.plain r (List.mem_filter.1 hr).1
    · intro _ s₂ t₂ h₂
      refine (h₂.agree_log _ _ _).mono ?_
      intro _ _ _ h₃
      exact ⟨_, h₃⟩

theorem stay_toggleRule (h : Twins base ls k s t) (id : String) (enabled : Value) :
    StayOn base ls k s t (Service.toggleRule id enabled) := by
  refine .bind (h.agree_rule id) ?_
  rintro r s t ⟨rfl, rfl⟩
  split
  · exact h.stay_changeRule id (Change.isPlain_switch _) fun _ _ hr =>
      ⟨hr.id, hr.name, hr.label, hr.wellFormed, hr.isGroup⟩
  · exact h.stay_updateRule id fun c hc => Change.isPlain_of_readEnabled hc

/-- Twins bring in the same rules, which are orderly and plain. -/
theorem agree_broughtIn (h : Twins base ls k s t) {fail : Session → Session → Prop} {incoming : List Rule}
    (ho : Rule.AreOrderly incoming) (hp : ∀ r ∈ incoming, r.IsPlain) (replace : Bool) :
    Agree fail (fun rules s' t' => s' = s ∧ t' = t ∧ Rule.AreOrderly rules ∧ ∀ r ∈ rules, r.IsPlain)
      (s.run (Service.broughtIn incoming replace)) (t.run (Service.broughtIn incoming replace)) := by
  rw [Service.broughtIn]
  split
  · exact .pure ⟨rfl, rfl, ho, hp⟩
  · refine .bind h.agree_rules ?_
    rintro _ s t ⟨rfl, rfl, rfl⟩
    refine .bind h.agree_now ?_
    rintro now s t ⟨rfl, rfl⟩
    refine .pure ⟨rfl, rfl, h.sound.orderly.merge ho.valid now, ?_⟩
    exact Rule.forall_mem_merge h.sound.plain hp fun r hr =>
      ⟨hr.id, hr.name, hr.label, hr.conditions, hr.priority⟩

theorem stay_importRules (h : Twins base ls k s t) {l : Location} (hl : l ∈ ls) (replace : Bool)
    (hplain : ∀ rules, (s.run (liftM (Rule.load l))).1 = .ok rules → ∀ r ∈ rules, r.IsPlain) :
    StayOn base ls k s t (Service.importRules l replace) := by
  refine .bind (h.agree_load hl) ?_
  rintro incoming s₁ t₁ ⟨hload, hincoming, h₁⟩
  refine .bind (h₁.agree_broughtIn hincoming (hplain incoming hload) replace) ?_
  rintro rules s₁ t₁ ⟨rfl, rfl, ho, hp⟩
  refine .bind (h₁.agree_saveRules (h.sound.of_rules ho hp)) ?_
  intro _ s₂ t₂ h₂
  exact h₂.stay_log _ _ _ _

/-! ## Payloads -/

theorem agree_labelsOf (h : Twins base ls k s t) (payload : Fields) (rules : List Rule) :
    AgreeOn base ls k s t (Service.labelsOf payload rules) fun labels s' t' =>
      Rule.labels Value.stackLevels payload rules = .ok labels ∧ s' = s ∧ t' = t := by
  rw [AgreeOn, Service.labelsOf]
  split
  · rename_i labels hlabels
    exact .pure ⟨hlabels, rfl, rfl⟩
  · exact .throw _ h

theorem stay_process (h : Twins base ls k s t) {v : Value} (hjson : v.isJson = true)
    (hnew : s.world.ids.next ∉ k.records.map Record.id) : StayOn base ls k s t (Service.process v) := by
  refine .bind (.ofChecked _ h) ?_
  rintro payload s t ⟨hpayload, rfl, rfl⟩
  refine .bind h.agree_rules ?_
  rintro _ s t ⟨rfl, rfl, rfl⟩
  refine .bind (h.agree_labelsOf payload k.rules) ?_
  rintro labels s t ⟨hlabels, rfl, rfl⟩
  refine .bind (h.agree_ids IdSource.next IdSource.rest Action.run_freshId) ?_
  rintro _ s₁ t₁ ⟨rfl, h₁⟩
  refine .bind h₁.agree_now ?_
  rintro now s₁ t₁ ⟨rfl, rfl⟩
  refine .bind (h₁.agree_append ⟨h.sound.orderly, h.sound.plain, ?_, ?_⟩) ?_
  · intro r hr
    rcases List.mem_append.1 hr with hr | hr
    · exact h.sound.plainRecords r hr
    · rw [List.mem_singleton.1 hr]
      refine ⟨isWhole_next _, Value.fieldsAreJson_of_readPayload hjson hpayload, ?_⟩
      intro label hlabel
      obtain ⟨r, hr, rfl⟩ := Rule.exists_of_mem_labels hlabels hlabel
      exact (h.sound.plain r hr).label
  · exact nodup_append_key h.sound.distinctRecords hnew
  · intro _ s₂ t₂ h₂
    exact h₂.stay_log _ _ _ _

theorem stay_dryRun (h : Twins base ls k s t) (v : Value) : StayOn base ls k s t (Service.dryRun v) := by
  refine .bind (.ofChecked _ h) ?_
  rintro payload s t ⟨-, rfl, rfl⟩
  refine .bind h.agree_rules ?_
  rintro _ s t ⟨rfl, rfl, rfl⟩
  refine .bind (h.agree_labelsOf payload k.rules) ?_
  rintro labels s t ⟨-, rfl, rfl⟩
  refine .bind (h.agree_log _ _ _) ?_
  intro _ s₁ t₁ h₁
  refine .bind h₁.agree_now ?_
  rintro now s₁ t₁ ⟨rfl, rfl⟩
  exact .pure ⟨k, h₁⟩

theorem stay_statistics (h : Twins base ls k s t) (c : Criteria) :
    StayOn base ls k s t (Service.statistics c) := by
  refine .bind h.agree_records ?_
  rintro _ s t ⟨rfl, rfl, rfl⟩
  refine .bind h.agree_now ?_
  rintro now s t ⟨rfl, rfl⟩
  exact h.stay_log _ _ _ _

/-! ## All operations -/

/-- Twins agree on an operation that suits them and loads a file that both find. -/
theorem stay_perform (h : Twins base ls k s t) {o : Operation} (hfile : ∀ l, o.file? = some l → l ∈ ls)
    (hsuits : o.Suits s) : StayOn base ls k s t o.perform := by
  cases o with
  | list =>
    refine .map h.agree_rules ?_
    rintro _ _ _ ⟨-, rfl, rfl⟩
    exact ⟨k, h⟩
  | read id =>
    refine .map (h.agree_rule id) ?_
    rintro _ _ _ ⟨rfl, rfl⟩
    exact ⟨k, h⟩
  | create fields =>
    obtain ⟨hnew, hplain⟩ := hsuits
    exact .map (h.stay_createRule (hnew _ (congrArg Prod.fst h.run_rules.1)) hplain) fun _ _ _ hk => hk
  | update id fields => exact .map (h.stay_updateRule id hsuits) fun _ _ _ hk => hk
  | delete id => exact .map (h.stay_deleteRule id) fun _ _ _ hk => hk
  | toggle id enabled => exact .map (h.stay_toggleRule id enabled) fun _ _ _ hk => hk
  | load l replace => exact .map (h.stay_importRules (hfile l rfl) replace hsuits) fun _ _ _ hk => hk
  | process payload =>
    obtain ⟨hnew, hjson⟩ := hsuits
    exact .map (h.stay_process hjson (hnew _ (congrArg Prod.fst h.run_records.1))) fun _ _ _ hk => hk
  | dryRun payload => exact .map (h.stay_dryRun payload) fun _ _ _ hk => hk
  | statistics c => exact .map (h.stay_statistics c) fun _ _ _ hk => hk
  | records =>
    refine .map h.agree_records ?_
    rintro _ _ _ ⟨-, rfl, rfl⟩
    exact ⟨k, h⟩

/-- Twins that agree on a service show one outcome of it, and are twins after it. -/
theorem run_eq {α : Type} {x : Service α} (h : StayOn base ls k s t x) :
    (s.run x).1 = (t.run x).1 ∧ ∃ k', Twins base ls k' (s.run x).2 (t.run x).2 := by
  rw [StayOn, AgreeOn] at h
  generalize s.run x = r at h ⊢
  generalize t.run x = r' at h ⊢
  cases h with
  | ok a s' t' h => exact ⟨rfl, h⟩
  | error e s' t' h => exact ⟨rfl, k, h⟩

end Session.Twins

end RuleLabels
