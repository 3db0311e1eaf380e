import Mathlib.Tactic.Common
import RuleLabels.Proofs.Store.Logs

/-!
# Stores give what they took

Whatever a store holds and wherever it keeps it, readable or not: once it has taken rules that suit it, these
are the rules that it gives, with their order and all their parts.  A database gives them with the halves of
characters in their conditions joined.  Orderly rules suit every store, and so do those that it gives.

* `Store.Suits.merge`: rules that a store gives still suit it when others were merged into them;
* `Store.run_rules_of_saveRules`: the rules that a store gives after it took some.
-/

namespace RuleLabels

open Rule

/-! ## Folders -/

namespace FolderStore

variable {s : FolderStore} {v w w' : World} {rules : List Rule}

theorem areOrderly_of_run_rules (h : ExceptT.run s.rules w = (.ok rules, w')) : AreOrderly rules := by
  obtain ⟨_, w₁, -, hrest⟩ := Action.run_bind_eq_ok h
  rw [Action.run_bind_ok (Action.run_now w₁)] at hrest
  split at hrest
  · rename_i hread
    cases hrest
    exact areOrderly_of_readAll hread
  · cases hrest

theorem run_rules_of_saveRules (hk : AreOrderly rules) (h : ExceptT.run (s.saveRules rules) w = (.ok (), w'))
    (hfiles : v.files = w'.files) : ExceptT.run s.rules v = (.ok rules, v) := by
  obtain ⟨_, w₁, hwrite, hlog⟩ := Action.run_bind_eq_ok h
  rw [Action.run_log] at hlog
  cases hlog
  obtain ⟨key, fs, rfl, hkey, hne, hputs⟩ := run_writeDocument_eq_ok hwrite
  have hfind := hputs.find ((Files.Stays.of_puts hputs hne).key hkey)
  have hsame : v.files = fs := hfiles
  rw [← hsame] at hfind
  rw [FolderStore.rules, Action.run_bind_ok (run_readDocument hfind), Action.run_bind_ok (Action.run_now _)]
  simp only [readAll_rulesDocument hk.valid hk.distinct]
  rfl

end FolderStore

/-! ## Databases -/

namespace DatabaseStore

variable {s s' : DatabaseStore} {v w w' : World} {rules : List Rule}

/-- A file that is in its place and holds tables is found with them. -/
theorem has_of_inPlace {t : Tables} (htables : ExceptT.run s.tables w = (.ok t, w))
    (hplace : s.inPlace w.files = true) : s.Has t w.files := by
  obtain ⟨url, place, maxDepth⟩ := s
  cases place with
  | memory separate t' =>
    cases htables
    rfl
  | bare => cases htables
  | file l number writes =>
    rw [inPlace, decide_eq_true_eq] at hplace
    obtain ⟨c, hfind⟩ := Files.find_of_numberAt? hplace
    rw [tables] at htables
    simp only [Action.run_bind_ok (Action.run_get w), Files.contentOf?_of_find hfind] at htables
    cases c with
    | tables t' =>
      cases htables
      exact hfind
    | _ => cases htables

/-- A database that takes rules has tables. -/
theorem has_of_saveRules (h : ExceptT.run (s.saveRules rules) w = (.ok s', w')) : ∃ t, s.Has t w.files := by
  obtain ⟨s₁, w₁, htransact, -⟩ := Action.run_bind_eq_ok h
  obtain ⟨t, w₂, htables, hrest⟩ := Action.run_bind_eq_ok htransact
  obtain rfl := (reads_tables s).world_eq htables
  obtain ⟨_, w₃, hwritable, -⟩ := Action.run_bind_eq_ok hrest
  refine ⟨t, has_of_inPlace htables ?_⟩
  rw [checkWritable, Action.run_bind_ok (Action.run_get _)] at hwritable
  split at hwritable
  · cases hwritable
  · rename_i hcheck
    rw [Bool.or_eq_true, not_or, Bool.not_eq_true', Bool.not_eq_true'] at hcheck
    exact Bool.not_eq_false _ ▸ hcheck.2

theorem hasGroup_of_run_rules (h : ExceptT.run s.rules w = (.ok rules, w')) : ∀ r ∈ rules, r.HasGroup := by
  obtain ⟨_, w₁, -, hrest⟩ := Action.run_bind_eq_ok h
  split at hrest
  · rename_i hread
    cases hrest
    exact RuleRow.hasGroup_of_toRules hread
  · cases hrest

theorem run_rules_of_saveRules (hgroup : ∀ r ∈ rules, r.HasGroup)
    (h : ExceptT.run (s.saveRules rules) w = (.ok s', w')) (hfiles : v.files = w'.files) :
    ExceptT.run s'.rules v = (.ok (rules.map Rule.joined), v) := by
  obtain ⟨t, hhas⟩ := has_of_saveRules h
  obtain ⟨t₁, t', w₁, htables, hreplace, hset, log, rfl⟩ := run_saveRules_eq_ok h
  cases hhas.run_tables.symm.trans htables
  have hhas' : s'.Has t' w₁.files := hhas.setTables hset
  rw [Tables.replaceRules_eq_ok hreplace] at hhas'
  have hsame : v.files = w₁.files := hfiles
  rw [← hsame] at hhas'
  have hrun := Has.run_tables hhas'
  rw [DatabaseStore.rules, Action.run_bind_ok hrun]
  simp only [RuleRow.toRules_sorted hgroup]
  rfl

end DatabaseStore

/-! ## Stores -/

namespace Store

variable {s s' : Store} {v w w' : World} {rules incoming : List Rule}

/-- A rule as a store keeps it: a database joins the halves of characters in its conditions. -/
def keep (s : Store) (r : Rule) : Rule :=
  match s with
  | database _ => r.joined
  | _ => r

theorem id_keep (s : Store) (r : Rule) : (s.keep r).id = r.id := by
  cases s with
  | memory rules records => rfl
  | folder s => rfl
  | database s => rfl

theorem map_id_map_keep (s : Store) (rules : List Rule) :
    (rules.map s.keep).map Rule.id = rules.map Rule.id := by
  rw [List.map_map]
  exact List.map_congr_left fun r _ => s.id_keep r

/-- What a store needs of rules to be able to give them back. -/
def Suits (s : Store) (rules : List Rule) : Prop :=
  match s with
  | memory .. => True
  | folder _ => AreOrderly rules
  | database _ => ∀ r ∈ rules, r.HasGroup

theorem suits_of_areOrderly (s : Store) (h : AreOrderly rules) : s.Suits rules := by
  cases s with
  | memory rules' records => trivial
  | folder s => exact h
  | database s => exact fun r hr => (h.valid r hr).hasGroup

/-- The rules that a store gives suit it. -/
theorem suits_of_run_rules (h : ExceptT.run s.rules w = (.ok rules, w')) : s.Suits rules := by
  cases s with
  | memory rules' records => trivial
  | folder s => exact FolderStore.areOrderly_of_run_rules h
  | database s => exact DatabaseStore.hasGroup_of_run_rules h

theorem Suits.merge (h : s.Suits rules) (hin : AreOrderly incoming) (now : Timestamp) :
    s.Suits (Rule.merge now rules incoming) := by
  cases s with
  | memory rules' records => trivial
  | folder s => exact AreOrderly.merge h hin.valid now
  | database s => exact forall_mem_merge h (fun r hr => (hin.valid r hr).hasGroup) fun r hr => hr

/-- **A store gives the rules that it took**, as it keeps them, for as long as no file changes. -/
theorem run_rules_of_saveRules (hsuits : s.Suits rules) (h : ExceptT.run (s.saveRules rules) w = (.ok s', w'))
    (hfiles : v.files = w'.files) : ExceptT.run s'.rules v = (.ok (rules.map s.keep), v) := by
  cases s with
  | memory rules' records =>
    have hkeep : rules.map (keep (memory rules' records)) = rules := List.map_id rules
    rw [hkeep]
    cases h
    rfl
  | folder s =>
    have hkeep : rules.map (keep (folder s)) = rules := List.map_id rules
    rw [hkeep]
    obtain ⟨_, w₁, hsave, hs⟩ := Action.run_bind_eq_ok h
    cases hs
    exact FolderStore.run_rules_of_saveRules hsuits hsave hfiles
  | database s =>
    obtain ⟨s₁, w₁, hsave, hs⟩ := Action.run_bind_eq_ok h
    cases hs
    exact DatabaseStore.run_rules_of_saveRules hsuits hsave hfiles

/-- Rules that a column keeps as they are, every store does. -/
theorem map_keep_of_map_joined (s : Store) (h : rules.map Rule.joined = rules) : rules.map s.keep = rules := by
  cases s with
  | memory rules' records => exact List.map_id rules
  | folder s => exact List.map_id rules
  | database s => exact h

end Store

end RuleLabels
