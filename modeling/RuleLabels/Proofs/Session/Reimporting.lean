import Mathlib.Tactic.Common
import RuleLabels.Proofs.Rule.Rereading
import RuleLabels.Proofs.Session.Importing

/-!
# What imports save, and imports of one file twice

An import has the store take the rules of the file, or the rules that it gives with those of the file merged
into them.  The store then gives these rules.  When the file is imported once more, each of its rules finds
itself in its place, so that nothing is added, and nothing but times is changed.  This rests on the
identifiers: a written rule for which the loader makes up an identifier finds itself nowhere.

* `ImportSaves.run_eq_ok`: what an import leaves when it succeeds;
* `forall₂_merge_again`: what merging rules that were read once more changes;
* `imports_merged`: what imports save, and what they change when they are repeated.
-/

namespace RuleLabels

open Rule

/-! ## Rules that are read again -/

/-- A rule was read from a document that had been read for a rule which the store gives: as the store keeps it,
it differs from that at most in its times, and in the time of creation only if the document does not tell
it. -/
structure Store.IsRenewal (s : Store) (v : Value) (given r : Rule) : Prop where
  reads : ∃ now path r', Rule.read now v path = .ok r' ∧ r = { r' with updatedAt := r.updatedAt }
  same : s.keep r = { given with createdAt := r.createdAt, updatedAt := r.updatedAt }
  created : v.tellsCreation = true → r.createdAt = given.createdAt

/-- What a store gives for one reading of a document is renewed by another one, whenever either of them was
changed. -/
theorem Rule.IsReread.isRenewal {v : Value} {r r' : Rule} (h : IsReread v r r') (s : Store)
    (updated updated' : Timestamp) :
    s.IsRenewal v (s.keep { r with updatedAt := updated }) { r' with updatedAt := updated' } := by
  obtain ⟨now, path, hread⟩ := h.reads
  refine ⟨⟨now, path, r', hread, rfl⟩, ?_, ?_⟩
  · rw [h.same]
    cases s with
    | memory rules records => rfl
    | folder s => rfl
    | database s => rfl
  · intro htells
    have hcreated := h.created htells
    cases s with
    | memory rules records => exact hcreated
    | folder s => exact hcreated
    | database s => exact hcreated

namespace Rule

variable {vs : List Value} {rules rules' : List Rule}

/-- What is found among rules that were read again had been found among the rules before. -/
theorem exists_withId?_of_forall₂ (h : rules.Forall₂ (fun r r' => ∃ v ∈ vs, IsReread v r r') rules')
    {id : String} {r' : Rule} (hr' : withId? id rules' = some r') :
    ∃ r, withId? id rules = some r ∧ ∃ v ∈ vs, IsReread v r r' := by
  induction h with
  | nil => exact nomatch hr'
  | cons hr _ ih =>
    rename_i s s' rest rest' _
    obtain ⟨v, hv, hs⟩ := hr
    rw [withId?, List.find?_cons] at hr' ⊢
    rw [← hs.id_eq]
    by_cases hid : s'.id = id
    · rw [decide_eq_true hid] at hr' ⊢
      cases hr'
      exact ⟨s, rfl, v, hv, hs⟩
    · rw [decide_eq_false hid] at hr' ⊢
      exact ih hr'

/-- **Merging the rules of a file again.**  After the rules of a file were merged and a store gives the
outcome, to merge the rules that are read from this file again replaces each rule in its place. -/
theorem forall₂_merge_again (s : Store) (now now' : Timestamp) {current : List Rule}
    (hcurrent : (current.map Rule.id).Nodup) (hrules : (rules.map Rule.id).Nodup)
    (h : rules.Forall₂ (fun r r' => ∃ v ∈ vs, IsReread v r r') rules') :
    let given := (merge now current rules).map s.keep
    given.Forall₂ (fun g r => r = g ∨ ∃ v ∈ vs, s.IsRenewal v g r) (merge now' given rules') := by
  intro given
  have hids' : rules'.map Rule.id = rules.map Rule.id := map_id_of_forall₂ h
  have hids : given.map Rule.id = ((current ++ rules).map Rule.id).eraseDups := by
    rw [s.map_id_map_keep, map_id_merge now hcurrent hrules]
  have hgiven : (given.map Rule.id).Nodup := hids ▸ Text.nodup_eraseDups _
  -- every rule of the file is among those that the store gives
  have hnone : (rules'.filter fun r => r.id ∉ given.map Rule.id) = [] := by
    refine List.filter_eq_nil_iff.2 fun r' hr' => ?_
    have hmem : r'.id ∈ given.map Rule.id := by
      rw [hids, List.mem_eraseDups, List.map_append, ← hids']
      exact List.mem_append_right _ (List.mem_map_of_mem hr')
    simp only [hmem, not_true_eq_false, decide_false, Bool.false_eq_true, not_false_eq_true]
  rw [merge_eq hgiven (hids' ▸ hrules), hnone, List.append_nil, List.forall₂_map_right_iff, List.forall₂_same]
  intro g hg
  rw [replacedFrom]
  split
  · rename_i r' hr'
    obtain ⟨m, hm, rfl⟩ := List.mem_map.1 hg
    rw [s.id_keep] at hr'
    obtain ⟨r, hr, v, hv, hreread⟩ := exists_withId?_of_forall₂ h hr'
    obtain ⟨updated, rfl⟩ := eq_of_mem_merge hcurrent hrules hm hr
    exact .inr ⟨v, hv, hreread.isRenewal s updated now'⟩
  · exact .inl rfl

end Rule

namespace Session

variable {t : Session} {l : Location} {replace : Bool} {incoming saved rules : List Rule}

/-! ## What an import saves -/

/-- Importing a file that holds the incoming rules is to have the store take the saved ones, with a message and
the numbers of both behind it, after identifiers were taken. -/
def ImportSaves (t : Session) (l : Location) (replace : Bool) (incoming saved : List Rule) : Prop :=
  ∃ ids, t.run (Service.importRules l replace) =
    (Session.mk t.store { t.world with ids }).run (do
      Service.saveRules saved
      Action.log .info Service.rulesSender
        s!"imported {incoming.length} rules from {l.text} (replace={(Value.bool replace).shown})"
      return ⟨incoming.length, replace, saved.length⟩)

theorem importSaves_replacing {ids : IdSource}
    (hload : ExceptT.run (Rule.load l) t.world = (.ok incoming, { t.world with ids })) :
    t.ImportSaves l true incoming incoming := ⟨ids, run_importRules hload rfl⟩

theorem importSaves_merging {ids : IdSource}
    (hload : ExceptT.run (Rule.load l) t.world = (.ok incoming, { t.world with ids }))
    (hgives : (t.run Service.rules).1 = .ok rules) :
    t.ImportSaves l false incoming (merge t.world.now rules incoming) := by
  have hgives' : ((Session.mk t.store { t.world with ids }).run Service.rules).1 = .ok rules :=
    (run_rules_congr (.ids t.world ids)).trans hgives
  exact ⟨ids, run_importRules hload (run_broughtIn_merge hgives')⟩

/-- An import that succeeds tells the numbers of rules, and its store took those that it saves. -/
theorem ImportSaves.run_eq_ok (h : t.ImportSaves l replace incoming saved) {i : Service.Imported} {s : Session}
    (hrun : t.run (Service.importRules l replace) = (.ok i, s)) :
    i = ⟨incoming.length, replace, saved.length⟩ ∧ ∃ w w',
      ExceptT.run (t.store.saveRules saved) w = (.ok s.store, w') ∧ s.world.files = w'.files := by
  obtain ⟨ids, himport⟩ := h
  rw [run_saveRules_reported] at himport
  cases hsave : ExceptT.run (t.store.saveRules saved) { t.world with ids } with
  | mk r w' =>
    rw [hsave] at himport
    cases r with
    | error e =>
      rw [himport] at hrun
      cases hrun
    | ok store =>
      rw [himport] at hrun
      cases hrun
      exact ⟨rfl, _, w', hsave, rfl⟩

/-! ## Imports of one file twice -/

/-- Whenever a file is imported again that has its content still and in which each written rule has its own
identifier, after an import that saved some rules and in a session that no other operation has changed, then
the session gives the saved rules, as its store keeps them; and what is saved now differs from them in nothing
but times of rules of the file, and in a time of creation only where the file does not tell it. -/
def IsRepeatable (t : Session) (l : Location) (replace : Bool) (saved : List Rule) : Prop :=
  ∀ vs, Lists l t.world vs → (∀ v ∈ vs, v.lacksId = false) →
    ∀ i s, t.run (Service.importRules l replace) = (.ok i, s) →
      ∀ u : Session, u.store = s.store → u.world.files = s.world.files →
        (u.run Service.rules).1 = .ok (saved.map t.store.keep) ∧
          (u.world.files.content l = t.world.files.content l →
            ∃ incoming again, u.ImportSaves l replace incoming again ∧
              (saved.map t.store.keep).Forall₂
                (fun g r => r = g ∨ ∃ v ∈ vs, t.store.IsRenewal v g r) again)

/-- The rules that an import has saved are given for as long as no file changes. -/
theorem ImportSaves.run_rules (h : t.ImportSaves l replace incoming saved) (hsuits : t.store.Suits saved)
    {i : Service.Imported} {s u : Session} (hrun : t.run (Service.importRules l replace) = (.ok i, s))
    (hstore : u.store = s.store) (hfiles : u.world.files = s.world.files) :
    (u.run Service.rules).1 = .ok (saved.map t.store.keep) := by
  obtain ⟨-, w, w', hsave, hleft⟩ := h.run_eq_ok hrun
  rw [run_rules_fst, hstore, Store.run_rules_of_saveRules hsuits hsave (hfiles.trans hleft)]

/-- An import in place of all rules can be repeated. -/
theorem isRepeatable_replacing {ids : IdSource}
    (hload : ExceptT.run (Rule.load l) t.world = (.ok incoming, { t.world with ids }))
    (ho : AreOrderly incoming) : t.IsRepeatable l true incoming := by
  intro vs hlists hown i s himport u hstore hfiles
  have hgives := (importSaves_replacing hload).run_rules (t.store.suits_of_areOrderly ho) himport hstore hfiles
  refine ⟨hgives, fun hcontent => ?_⟩
  obtain ⟨incoming', hload', hagain⟩ := load_again hlists hown (by rw [hload]) hcontent
  refine ⟨incoming', incoming', importSaves_replacing hload', ?_⟩
  rw [List.forall₂_map_left_iff]
  refine hagain.imp ?_
  rintro g g' ⟨v, hv, hg⟩
  exact .inr ⟨v, hv, hg.isRenewal t.store g.updatedAt g'.updatedAt⟩

/-- An import that merges rules can be repeated. -/
theorem isRepeatable_merging {ids : IdSource}
    (hload : ExceptT.run (Rule.load l) t.world = (.ok incoming, { t.world with ids }))
    (ho : AreOrderly incoming) (hgives : (t.run Service.rules).1 = .ok rules)
    (hdistinct : (rules.map Rule.id).Nodup) :
    t.IsRepeatable l false (merge t.world.now rules incoming) := by
  intro vs hlists hown i s himport u hstore hfiles
  have hsuits : t.store.Suits rules := by
    rw [run_rules_fst] at hgives
    exact Store.suits_of_run_rules (Prod.ext hgives rfl)
  have hgives' := (importSaves_merging hload hgives).run_rules (hsuits.merge ho t.world.now) himport hstore
    hfiles
  refine ⟨hgives', fun hcontent => ?_⟩
  obtain ⟨incoming', hload', hagain⟩ := load_again hlists hown (by rw [hload]) hcontent
  exact ⟨incoming', _, importSaves_merging hload' hgives',
    forall₂_merge_again t.store t.world.now u.world.now hdistinct ho.distinct hagain⟩

/-- **What imports save.**  A file that is loaded holds rules with different identifiers.  An import in place of
all rules saves just these.  An import into a session that gives rules with different identifiers keeps each of
them in its place, or puts the one with its identifier from the file there with the time of the import as that
of its change, and appends the others in the order of the file; these are as many as there are identifiers in
the session or the file, and no two of them have the same.  Either import can be repeated. -/
theorem imports_merged (hload : (ExceptT.run (Rule.load l) t.world).1 = .ok incoming) :
    (incoming.map Rule.id).Nodup ∧ t.ImportSaves l true incoming incoming ∧ t.IsRepeatable l true incoming ∧
      ∀ current, (t.run Service.rules).1 = .ok current → (current.map Rule.id).Nodup →
        let merged := current.map (replacedFrom t.world.now incoming) ++
          incoming.filter fun r => r.id ∉ current.map Rule.id
        t.ImportSaves l false incoming merged ∧ t.IsRepeatable l false merged ∧
          merged.map Rule.id = ((current ++ incoming).map Rule.id).eraseDups ∧
          merged.length = ((current ++ incoming).map Rule.id).eraseDups.length ∧
          (merged.map Rule.id).Nodup := by
  obtain ⟨r, ids, horderly, hrun⟩ := run_load l (t.world.files.find l) t.world.now t.world.ids
  have hrun' := hrun t.world rfl rfl rfl
  rw [hrun'] at hload
  cases hload
  have ho : AreOrderly incoming := horderly incoming rfl
  refine ⟨ho.distinct, importSaves_replacing hrun', isRepeatable_replacing hrun' ho, ?_⟩
  intro current hgives hdistinct
  have hsaves := importSaves_merging hrun' hgives
  have hrepeatable := isRepeatable_merging hrun' ho hgives hdistinct
  have hids := map_id_merge t.world.now hdistinct ho.distinct
  rw [merge_eq hdistinct ho.distinct] at hsaves hrepeatable hids
  refine ⟨hsaves, hrepeatable, hids, ?_, hids ▸ Text.nodup_eraseDups _⟩
  rw [← hids, List.length_map]

/-! ## Two imports -/

/-- The memory of all default rules but the first one, with a file that exports all of them. -/
def withoutFirst : Session :=
  ⟨.memory ((Rule.defaults .epoch).drop 1) [],
    { exportWorld (Rule.defaults .epoch) with now := oneSecondLater }⟩

/-- The default rules with the first one at the end and the others changed. -/
def firstAppended : List Rule :=
  ((Rule.defaults .epoch).drop 1).map (changedAt oneSecondLater) ++ (Rule.defaults .epoch).take 1

/-- The default rules are merged into those of them that are there, and the file may be imported once more. -/
theorem imports_merged_defaults :
    (ExceptT.run (Rule.load exportFile) withoutFirst.world).1 = .ok (Rule.defaults .epoch) ∧
      (withoutFirst.run Service.rules).1 = .ok ((Rule.defaults .epoch).drop 1) ∧
      withoutFirst.ImportSaves exportFile false (Rule.defaults .epoch) firstAppended ∧
      ∃ s, withoutFirst.run (Service.importRules exportFile false) = (.ok ⟨3, false, 3⟩, s) ∧
        (s.run Service.rules).1 = .ok firstAppended ∧
        ∃ incoming again, s.ImportSaves exportFile false incoming again ∧
          firstAppended.Forall₂ (fun g r => r = g ∨ ∃ v ∈ (Rule.defaults .epoch).map Rule.toValue,
            withoutFirst.store.IsRenewal v g r) again := by
  have hsound := Stock.isSound_initial true .epoch
  have hexported : AreExported (Rule.defaults .epoch) exportFile withoutFirst.world.files :=
    areExported_exportWorld hsound.orderly.valid (fun r hr => isJson_toValue (hsound.plain r hr))
      (by decide +kernel)
  have hload : (ExceptT.run (Rule.load exportFile) withoutFirst.world).1 = .ok (Rule.defaults .epoch) := by
    rw [run_load_of_areExported hexported hsound.orderly]
  have hdistinct : (((Rule.defaults .epoch).drop 1).map Rule.id).Nodup := by decide
  have hmerged : ((Rule.defaults .epoch).drop 1).map (replacedFrom oneSecondLater (Rule.defaults .epoch)) ++
      ((Rule.defaults .epoch).filter fun r => r.id ∉ ((Rule.defaults .epoch).drop 1).map Rule.id) =
        firstAppended := rfl
  obtain ⟨hsaves, hrepeatable, -⟩ := (imports_merged hload).2.2.2 _ rfl hdistinct
  have hsaves : withoutFirst.ImportSaves exportFile false (Rule.defaults .epoch) firstAppended :=
    hmerged ▸ hsaves
  have hrepeatable : withoutFirst.IsRepeatable exportFile false firstAppended := hmerged ▸ hrepeatable
  obtain ⟨s, hrun, hfiles⟩ : ∃ s, withoutFirst.run (Service.importRules exportFile false) =
      (.ok ⟨3, false, 3⟩, s) ∧ s.world.files = withoutFirst.world.files := by
    obtain ⟨ids, himport⟩ := hsaves
    refine ⟨_, Prod.ext ?_ rfl, ?_⟩
    · rw [himport]
      rfl
    · rw [himport]
      rfl
  obtain ⟨hgives, hagain⟩ := hrepeatable _ (lists_of_areExported hexported)
    (lacksId_of_mem_toValue hsound.orderly.valid) _ s hrun s rfl rfl
  obtain ⟨incoming, again, hsecond, hrenewed⟩ := hagain (congrArg (Files.content · exportFile) hfiles)
  exact ⟨hload, rfl, hsaves, s, hrun, hgives, incoming, again, hsecond, hrenewed⟩

/-- A written rule with the number zero for its identifier. -/
def zeroItem : Value :=
  .object [("id", .int 0), ("name", .text "Adults"), ("label", .text "adult"),
    ("conditions", .object [("key", .text "age"), ("operator", .text "="), ("value", .int 18)])]

/-- An empty memory, with a file of this rule. -/
def zeroSession : Session :=
  ⟨.memory [] [], { bareWorld with
    files := Files.empty.setContent ["export.json"] (.document (.array [zeroItem])) }⟩

/-- A rule that has the identifier `0` where it is read gets another one whenever it is loaded: importing its
file again adds it again. -/
theorem repeated_import_adds :
    let first := zeroSession.run (Service.importRules exportFile false)
    let second := first.2.run (Service.importRules exportFile false)
    (Rule.read .epoch zeroItem .document).toOption.map Rule.id = some "0" ∧
      first.1.toOption.map (fun i => (i.count, i.total)) = some (1, 1) ∧
      second.1.toOption.map (fun i => (i.count, i.total)) = some (1, 2) := by
  decide +kernel

end Session

end RuleLabels
