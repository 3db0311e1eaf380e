import Mathlib.Tactic.Common
import RuleLabels.Proofs.Rule.Edit
import RuleLabels.Proofs.Rule.Loading
import RuleLabels.Proofs.Session.Effects

/-!
# What each operation writes

Every operation looks at its input and at the store, and has the store take at most one thing: rules that are
an edit of those that it gives or come of a file, or one record, if a payload is processed.  Orderly rules
stay orderly, as long as the identifier of a rule that is made is new.
-/

namespace RuleLabels

/-- The identifier that a rule is made with is no rule's. -/
def Operation.IsFresh (s : Session) : Operation → Prop
  | .create _ => ∀ rules, (s.run Service.rules).1 = .ok rules →
      Rule.idOf s.world.ids.next ∉ rules.map Rule.id
  | _ => True

/-- An operation processes a payload. -/
def Operation.Posts : Operation → Prop
  | .process _ => True
  | _ => False

namespace Session

/-! ## Orderly rules -/

/-- What is written keeps orderly rules orderly, if `fresh` holds, and is a record only if `posts` holds. -/
def Write.KeepsOrder (s : Session) (fresh posts : Prop) : Write → Prop
  | rules rs =>
    ∀ current, (s.run Service.rules).1 = .ok current → Rule.AreOrderly current → fresh → Rule.AreOrderly rs
  | record _ => posts

/-- An outcome that keeps orderly rules orderly. -/
abbrev KeepsOrder {α : Type} (s : Session) (fresh posts : Prop) : Except Failure α × Session → Prop :=
  Does (Write.KeepsOrder s fresh posts) s

variable {s : Session} {fresh posts : Prop}

/-- Nothing fails that only sends a message at the end. -/
theorem ends_log {α : Type} (level : Level) (sender message : String) (a : α) :
    Ends (do
      Action.log level sender message
      return a : Service α) :=
  .bind (.log level sender message) fun _ => .pure a

/-! ## Rules -/

theorem peeks_rule (id : String) : Peeks (fun _ => True) s (s.run (Service.rule id)) := by
  refine .bind .rules fun rules _ => ?_
  split
  · exact .pure trivial
  · exact .throw _

theorem does_createRule (s : Session) (fields : Fields) :
    KeepsOrder s (∀ rules, (s.run Service.rules).1 = .ok rules →
      Rule.idOf s.world.ids.next ∉ rules.map Rule.id) posts (s.run (Service.createRule fields)) := by
  refine .bind (.ofChecked _) fun _ _ => .bind .now fun now _ => ?_
  refine .bind_ids (Rule.run_freshId s.world) fun id hid => ?_
  cases hid
  refine .bind (.ofChecked _) fun d hd => .bind .rules fun rules hrules => ?_
  refine .saveRules ?_ fun _ => ends_log _ _ _ _
  intro current hcurrent horderly hnew
  cases hcurrent.symm.trans ((run_rules_congr (.ids _ _)).symm.trans hrules)
  exact horderly.append (Draft.isValid_toRule hd (Rule.not_allBlank_idOf _) now) (hnew _ hcurrent)

theorem does_changeRule (s : Session) (id : String) {c : Change}
    (hvalid : ∀ now r, r.IsValid → (c.apply now r).IsValid) :
    KeepsOrder s fresh posts (s.run (Service.changeRule id c)) := by
  refine .bind .rules fun rules hrules => ?_
  split
  · exact .throw _
  · refine .bind .now fun now _ => .saveRules ?_ fun _ => ends_log _ _ _ _
    intro current hcurrent horderly _
    rw [hcurrent] at hrules
    cases hrules
    exact horderly.editFirst (fun _ hr => hr) (hvalid now)

theorem does_updateRule (s : Session) (id : String) (fields : Fields) :
    KeepsOrder s fresh posts (s.run (Service.updateRule id fields)) := by
  refine .bind (.ofChecked _) fun c hc => ?_
  exact does_changeRule s id fun now _ hr => Change.isValid_apply hc hr now

theorem does_deleteRule (s : Session) (id : String) :
    KeepsOrder s fresh posts (s.run (Service.deleteRule id)) := by
  refine .bind .rules fun rules hrules => ?_
  have hsave : KeepsOrder s fresh posts (s.run (do
      Service.saveRules (Rule.withoutId id rules)
      Action.log .info Service.rulesSender s!"deleted rule id={id}")) := by
    refine .saveRules ?_ fun _ => .log _ _ _
    intro current hcurrent horderly _
    rw [hcurrent] at hrules
    cases hrules
    exact horderly.withoutId id
  dsimp only
  split
  · exact .throw_bind _ _
  · exact hsave

theorem does_toggleRule (s : Session) (id : String) (enabled : Value) :
    KeepsOrder s fresh posts (s.run (Service.toggleRule id enabled)) := by
  refine .bind (peeks_rule id) fun r _ => ?_
  split
  · exact does_changeRule s id fun _ _ hr => ⟨hr.id, hr.name, hr.label, hr.wellFormed, hr.isGroup⟩
  · exact does_updateRule s id _

/-- Rules that are brought in stand alone, or are merged into those that the store gives. -/
theorem peeks_broughtIn (fresh posts : Prop) {incoming : List Rule} (ho : Rule.AreOrderly incoming)
    (replace : Bool) :
    Peeks (fun rules => Write.KeepsOrder s fresh posts (.rules rules)) s
      (s.run (Service.broughtIn incoming replace)) := by
  rw [Service.broughtIn]
  split
  · exact .pure fun _ _ _ _ => ho
  · refine .bind .rules fun rules hrules => .bind .now fun now _ => .pure ?_
    intro current hcurrent horderly _
    rw [hcurrent] at hrules
    cases hrules
    exact horderly.merge ho.valid now

theorem does_importRules (s : Session) (l : Location) (replace : Bool) :
    KeepsOrder s fresh posts (s.run (Service.importRules l replace)) := by
  obtain ⟨r, ids, ho, hload⟩ := Rule.run_load l (s.world.files.find l) s.world.now s.world.ids
  refine .bind_ids (hload s.world rfl rfl rfl) fun incoming hincoming => ?_
  refine .bind (peeks_broughtIn fresh posts (ho incoming hincoming) replace) fun rules hrules => ?_
  refine .saveRules ?_ fun _ => ends_log _ _ _ _
  intro current hcurrent
  exact hrules current ((run_rules_congr (.ids _ _)).trans hcurrent)

/-! ## Payloads -/

theorem peeks_labelsOf (payload : Fields) (rules : List Rule) :
    Peeks (fun _ => True) s (s.run (Service.labelsOf payload rules)) := by
  rw [Service.labelsOf]
  split
  · exact .pure trivial
  · exact .throw _

theorem does_process (s : Session) (v : Value) : KeepsOrder s fresh True (s.run (Service.process v)) := by
  refine .bind (.ofChecked _) fun payload _ => .bind .rules fun rules _ => ?_
  refine .bind (peeks_labelsOf payload rules) fun labels _ => ?_
  refine .bind_ids (Action.run_freshId s.world) fun id hid => .bind .now fun now _ => ?_
  exact .append trivial fun _ => ends_log _ _ _ _

theorem does_dryRun {may : Write → Prop} (s : Session) (v : Value) :
    Does may s (s.run (Service.dryRun v)) := by
  refine .bind (.ofChecked _) fun payload _ => .bind .rules fun rules _ => ?_
  refine .bind (peeks_labelsOf payload rules) fun labels _ => .of_ends ?_
  exact .bind (.log _ _ _) fun _ => .bind .now fun _ => .pure _

theorem does_statistics {may : Write → Prop} (s : Session) (c : Criteria) :
    Does may s (s.run (Service.statistics c)) := by
  refine .bind .records fun records _ => .bind .now fun now _ => .of_ends ?_
  exact ends_log _ _ _ _

/-! ## All operations -/

/-- An operation keeps orderly rules orderly, if a rule that it makes gets a new identifier, and writes a
record only if it processes a payload. -/
theorem does_perform (s : Session) (o : Operation) :
    KeepsOrder s (o.IsFresh s) o.Posts (s.run o.perform) := by
  cases o with
  | list => exact .map _ (.of_peeks .rules)
  | read id => exact .map _ (.of_peeks (peeks_rule id))
  | create fields => exact .map _ (does_createRule s fields)
  | update id fields => exact .map _ (does_updateRule s id fields)
  | delete id => exact .map _ (does_deleteRule s id)
  | toggle id enabled => exact .map _ (does_toggleRule s id enabled)
  | load l replace => exact .map _ (does_importRules s l replace)
  | process payload => exact .map _ (does_process s payload)
  | dryRun payload => exact .map _ (does_dryRun s payload)
  | statistics c => exact .map _ (does_statistics s c)
  | records => exact .map _ (.of_peeks .records)

end Session

end RuleLabels
