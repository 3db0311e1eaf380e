import Mathlib.Tactic.Common
import RuleLabels.Proofs.Rule.Exporting
import RuleLabels.Proofs.Session.Failures
import RuleLabels.Proofs.Session.Order
import RuleLabels.Proofs.Store.Taking

/-!
# Exports are imported back

The rules of a session may be exported and brought into another one, or back into their own.  Importing the
file does what having the store take these rules does: it fails for the same reason, and then changes
nothing, or the store gives just these rules from then on.

* `run_importRules`: what an import comes to, in terms of what is loaded and what the store takes;
* `imports_exported`: importing what was exported.
-/

namespace RuleLabels.Session

open Rule

/-- Importing a file has the store take rules: it fails as that fails, and then nothing is changed; or it
counts these rules, and the store gives them. -/
structure Imports (t : Session) (l : Location) (replace : Bool) (rules : List Rule) : Prop where
  fails : ∀ e, (t.run (Service.saveRules rules)).1 = .error e →
    (t.run (Service.importRules l replace)).1 = .error e ∧ t.Unchanged (t.run (Service.importRules l replace)).2
  takes : (t.run (Service.saveRules rules)).1 = .ok () →
    (t.run (Service.importRules l replace)).1 = .ok ⟨rules.length, replace, rules.length⟩ ∧
      ((t.run (Service.importRules l replace)).2.run Service.rules).1 = .ok rules

variable {t : Session} {l : Location} {replace : Bool} {incoming rules : List Rule}

/-- An import comes to what having the store take the rules comes to, with a message behind it. -/
theorem run_importRules {w : World} (hload : ExceptT.run (Rule.load l) t.world = (.ok incoming, w))
    (hbrought : (Session.mk t.store w).run (Service.broughtIn incoming replace) = (.ok rules, ⟨t.store, w⟩)) :
    t.run (Service.importRules l replace) = (Session.mk t.store w).run (do
      Service.saveRules rules
      Action.log .info Service.rulesSender
        s!"imported {incoming.length} rules from {l.text} (replace={(Value.bool replace).shown})"
      return ⟨incoming.length, replace, rules.length⟩) := by
  rw [Service.importRules, run_bind_ok (run_lift hload), run_bind_ok hbrought]

/-- Rules that are merged into those that a session gives. -/
theorem run_broughtIn_merge (h : (t.run Service.rules).1 = .ok rules) :
    t.run (Service.broughtIn incoming false) = (.ok (merge t.world.now rules incoming), t) := by
  rw [Service.broughtIn, if_neg Bool.false_ne_true, run_bind_ok (run_rules_of_gives h),
    run_bind_ok (run_lift (Action.run_now _))]
  rfl

/-- An import of which the rules that are brought in are known has the store take these. -/
theorem imports_of_broughtIn (hload : ExceptT.run (Rule.load l) t.world = (.ok incoming, t.world))
    (hbrought : t.run (Service.broughtIn incoming replace) = (.ok rules, t))
    (hlength : incoming.length = rules.length) (hk : AreOrderly rules)
    (hjoined : rules.map Rule.joined = rules) : t.Imports l replace rules := by
  have himport := run_importRules hload hbrought
  have hsave := t.run_saveRules_fst rules
  rw [run_saveRules_reported] at himport
  cases hrun : ExceptT.run (t.store.saveRules rules) t.world with
  | mk r w =>
    rw [hrun] at hsave himport
    cases r with
    | error e =>
      have hfails : (t.run (Service.importRules l replace)).1 = .error e := by rw [himport]
      have hdoes : KeepsOrder t True True (t.run (Service.importRules l replace)) :=
        does_importRules t l replace
      have hunchanged := hdoes.unchanged hfails
      constructor
      · intro e' he'
        rw [hsave] at he'
        cases he'
        exact ⟨hfails, hunchanged⟩
      · intro hok
        rw [hsave] at hok
        cases hok
    | ok store =>
      constructor
      · intro e he
        rw [hsave] at he
        cases he
      · intro _
        have hgives : ((Session.mk store w).run Service.rules).1 = .ok rules := by
          rw [run_rules_fst, Store.run_rules_of_saveRules (t.store.suits_of_areOrderly hk) hrun rfl,
            t.store.map_keep_of_map_joined hjoined]
        rw [himport, hlength]
        exact ⟨rfl, (run_rules_congr (s := ⟨store, w⟩) (.log w _)).trans hgives⟩

/-! ## Exports -/

variable {limits : Json.Limits} {seed : Bool} {place : Store.Place} {w : World} {s : Session}

/-- **Exports are imported back.**  Take the rules that a session gives after any run of operations on a new
store, and a JSON file that spells them.  To import this file in place of all rules, in any session, is to
have its store take these rules; and to merge it into a store that gives these rules is to have it take them
with the time of the import as the time of their change. -/
theorem imports_exported (h : openAt? limits seed place w = some s)
    (hnew : s.store.isNew w.files.next s.world.files = true) {steps : List Step} (hfresh : s.AllFresh steps)
    (hrules : ((s.after steps).run Service.rules).1 = .ok rules) (t : Session)
    (hl : AreExported rules l t.world.files) :
    t.Imports l true rules ∧
      ((t.run Service.rules).1 = .ok rules → t.Imports l false (rules.map (changedAt t.world.now))) := by
  obtain ⟨_, hgiven, hk⟩ := ((HasOrder.of_openAt h hnew).after hfresh).run_rules
  cases hrules.symm.trans hgiven
  have hload := run_load_of_areExported hl hk
  have hjoined := map_joined_of_areExported hl hk
  refine ⟨imports_of_broughtIn hload rfl rfl hk hjoined, fun hgives => ?_⟩
  have hbrought : t.run (Service.broughtIn rules false) = _ := run_broughtIn_merge hgives
  rw [merge_self t.world.now hk.distinct] at hbrought
  refine imports_of_broughtIn hload hbrought (List.length_map _).symm (hk.map_changedAt _) ?_
  rw [map_joined_map_changedAt, hjoined]

/-! ## Exports that are imported -/

/-- The file that rules are exported to. -/
def exportFile : Location := ⟨"", ["export.json"]⟩

/-- The bare world with the documents of rules in a file. -/
def exportWorld (rules : List Rule) : World :=
  { bareWorld with
    files := Files.empty.setContent ["export.json"] (.document (FolderStore.rulesDocument rules)) }

theorem content_exportFile (rules : List Rule) :
    (exportWorld rules).files.content exportFile = .ok (.document (FolderStore.rulesDocument rules)) := by
  have hfind : (exportWorld rules).files.find exportFile =
      .ok (.file 0 (.document (FolderStore.rulesDocument rules))) := by
    refine Files.find_eq_ok_iff.2 ⟨["export.json"], ?_, ?_⟩
    · with_unfolding_all rfl
    · with_unfolding_all rfl
  exact Files.content_of_find hfind

theorem areExported_exportWorld {rules : List Rule} (hvalid : ∀ r ∈ rules, r.IsValid)
    (h : ∀ r ∈ rules, r.toValue.isJson = true)
    (hnesting : (FolderStore.rulesDocument rules).nesting ≤ Json.maxDepth) :
    AreExported rules exportFile (exportWorld rules).files :=
  areExported_of_content Json.Layout.isBlank_indented (by decide) (content_exportFile rules) rfl (.inl rfl)
    hvalid h hnesting

/-- The default rules are exported from the memory that began with them, and imported there again. -/
theorem imports_exported_defaults :
    ∃ s t : Session, openAt? .unbounded true .memory bareWorld = some s ∧
      s.store.isNew bareWorld.files.next s.world.files = true ∧ s.AllFresh [] ∧
      ((s.after []).run Service.rules).1 = .ok (Rule.defaults .epoch) ∧
      AreExported (Rule.defaults .epoch) exportFile t.world.files ∧
      t.Imports exportFile true (Rule.defaults .epoch) ∧
      (t.run Service.rules).1 = .ok (Rule.defaults .epoch) ∧
      t.Imports exportFile false ((Rule.defaults .epoch).map (changedAt oneSecondLater)) := by
  have hsound := Stock.isSound_initial true .epoch
  have hexported : AreExported (Rule.defaults .epoch) exportFile (exportWorld (Rule.defaults .epoch)).files :=
    areExported_exportWorld hsound.orderly.valid (fun r hr => isJson_toValue (hsound.plain r hr))
      (by decide +kernel)
  have hopen : openAt? .unbounded true .memory bareWorld =
      some ⟨.memory (Rule.defaults .epoch) [], bareWorld⟩ := rfl
  have hfresh : (Session.mk (.memory (Rule.defaults .epoch) []) bareWorld).AllFresh [] := trivial
  obtain ⟨hall, hmerged⟩ := imports_exported hopen rfl hfresh rfl
    ⟨.memory (Rule.defaults .epoch) [],
      { exportWorld (Rule.defaults .epoch) with now := oneSecondLater }⟩ hexported
  exact ⟨_, _, hopen, rfl, hfresh, rfl, hexported, hall, rfl, hmerged rfl⟩

/-- A rule is made with a priority of more than 64 bits. -/
def wideSteps : List Step := [
  ⟨.epoch, ⟨1, 0⟩, .create [("name", .text "Adults"), ("label", .text "adult"),
    ("conditions", .object [("key", .text "age"), ("operator", .text ">="), ("value", .int 18)]),
    ("priority", .int (2 ^ 63))]⟩]

/-- Rules whose documents can be exported, but which a store does not take, since a priority has more than 64
bits. -/
def areTooWide (store : Store) (rules : List Rule) : Bool :=
  rules.all (fun r => r.toValue.isJson) &&
    decide ((FolderStore.rulesDocument rules).nesting ≤ Json.maxDepth) &&
    match ((Session.mk store (exportWorld rules)).run (Service.saveRules rules)).1 with
    | .error .integerTooWide => true
    | _ => false

/-- Not every import of an export succeeds: memory takes a priority of any size, and a database none of more
than 64 bits. -/
theorem import_fails_on_wide_priority :
    ∃ (s t : Session) (rules : List Rule), openAt? .unbounded false .memory bareWorld = some s ∧
      ((s.after wideSteps).run Service.rules).1 = .ok rules ∧
      openAt? .unbounded false (.database "sqlite://") bareWorld = some t ∧
      AreExported rules exportFile (exportWorld rules).files ∧
      ((Session.mk t.store (exportWorld rules)).run (Service.importRules exportFile true)).1 =
        .error .integerTooWide := by
  have hcheck : (openAt? .unbounded false (.database "sqlite://") bareWorld).any (fun t =>
      passes (areTooWide t.store)
        (((Session.mk (.memory [] []) bareWorld).after wideSteps).run Service.rules).1) = true := by
    decide +kernel
  obtain ⟨t, ht, hwide⟩ := (Option.any_eq_true _ _).1 hcheck
  have hfresh : (Session.mk (.memory [] []) bareWorld).AllFresh wideSteps := by
    refine ⟨fun rules hrules => ?_, trivial⟩
    cases hrules
    exact List.not_mem_nil
  have hopen : openAt? .unbounded false .memory bareWorld = some ⟨.memory [] [], bareWorld⟩ := rfl
  obtain ⟨rules, hrules, hk⟩ := ((HasOrder.of_openAt hopen rfl).after hfresh).run_rules
  have hrefused := of_passes hwide rules hrules
  rw [areTooWide, Bool.and_eq_true, Bool.and_eq_true, List.all_eq_true, decide_eq_true_eq] at hrefused
  obtain ⟨⟨hjson, hnesting⟩, hsave⟩ := hrefused
  have hexported := areExported_exportWorld hk.valid hjson hnesting
  have himports : (Session.mk t.store (exportWorld rules)).Imports exportFile true rules :=
    imports_of_broughtIn (run_load_of_areExported hexported hk) rfl rfl hk
      (map_joined_of_areExported hexported hk)
  refine ⟨_, t, rules, hopen, hrules, ht, hexported, ?_⟩
  split at hsave
  · rename_i herror
    exact (himports.fails _ herror).1
  · cases hsave

end RuleLabels.Session
