import RuleLabels.Proofs.Session.Refusing
import RuleLabels.Proofs.Session.Reimporting

/-!
# Identifiers that files give

A written rule that has an identifier is loaded as it is read, and keeps this identifier.  So an import that finds
its rule in the store changes it in its place, and only the rules that got new identifiers are added when a file is
imported again.  What counts as no identifier is more than what is left out: a number that is zero, for one, is
replaced by a new identifier although a reader accepts it.

* `forall₂_of_load`: which rules are loaded;
* `updatesOwn_of_lists`: what importing a file again does to the rules with identifiers of their own;
* `load_identifies`: all of it, and what loading a rule with an identifier that is not accepted comes to.
-/

namespace RuleLabels

open Rule

/-! ## Lists that are related one by one -/

theorem exists_mem_right_of_forall₂ {α β : Type} {R : α → β → Prop} {as : List α} {bs : List β}
    (h : as.Forall₂ R bs) {a : α} (ha : a ∈ as) : ∃ b ∈ bs, R a b := by
  induction h with
  | nil => cases ha
  | cons hab _ ih =>
    rcases List.mem_cons.1 ha with rfl | ha
    · exact ⟨_, List.mem_cons_self, hab⟩
    · obtain ⟨b, hb, h⟩ := ih ha
      exact ⟨b, List.mem_cons_of_mem _ hb, h⟩

theorem exists_mem_left_of_forall₂ {α β : Type} {R : α → β → Prop} {as : List α} {bs : List β}
    (h : as.Forall₂ R bs) {b : β} (hb : b ∈ bs) : ∃ a ∈ as, R a b :=
  exists_mem_right_of_forall₂ h.flip hb

/-! ## Loading -/

namespace Rule

variable {l : Location} {w : World} {items : List Value} {rules : List Rule}

/-- A written rule is loaded as a rule: as it is read, if it has an identifier. -/
structure Loads (now : Timestamp) (m : Value) (r : Rule) : Prop where
  loadsAs : m.LoadsAs r.id
  reads : m.lacksId = false → ∀ path, read now m path = .ok r

theorem Loads.writesId {now : Timestamp} {m : Value} {r : Rule} (h : Loads now m r) (hown : m.lacksId = false) :
    m.WritesId r.id := by
  have hid := h.loadsAs
  unfold Value.LoadsAs at hid
  rwa [if_neg (Bool.eq_false_iff.1 hown)] at hid

/-- A file with the same content lists the same written rules. -/
theorem Lists.of_content {w' : World} (h : Lists l w items) (hcontent : w'.files.content l = w.files.content l) :
    Lists l w' items := by
  obtain ⟨v, hread, hitems⟩ := h
  obtain ⟨r, hr⟩ := run_readDocument_of_content l (w.files.content l)
  refine ⟨v, ?_, hitems⟩
  rw [hr w' hcontent, ← hread, hr w rfl]

/-- The written rules of a file are loaded one by one. -/
theorem forall₂_of_load (h : Lists l w items) (hload : (ExceptT.run (load l) w).1 = .ok rules) :
    items.Forall₂ (Loads w.now) rules := by
  obtain ⟨ids, hrun⟩ := run_load_eq h
  rw [hrun] at hload
  cases hrules : readItems w.now .document (identifiedFrom w.ids items) with
  | error e =>
    rw [hrules] at hload
    cases hload
  | ok found =>
    rw [hrules] at hload
    cases hload
    obtain ⟨_, hread, h⟩ := except_bind_eq_ok.1 hrules
    obtain ⟨_, -, h⟩ := except_bind_eq_ok.1 h
    cases h
    refine (forall₂_of_readEach (forall₂_identifiedFrom items w.ids) hread).imp ?_
    rintro m r ⟨g, place, hg, hr⟩
    refine ⟨loadsAs_of_isIdentified hg hr, fun hown => ?_⟩
    cases hg with
    | own _ => exact (relocates_read w.now m).eq_ok_anywhere hr
    | new ids hlacks => cases hown.symm.trans hlacks

/-- The first written rule that is refused, if it has an identifier, is refused as it is read. -/
theorem load_eq_error_of_own {before after : List Value} {m : Value} (h : Lists l w (before ++ m :: after))
    (hown : m.lacksId = false)
    (hbefore : ∃ rules, readEach w.now .document 0 (identifiedFrom w.ids before) = .ok rules) {e : Invalid}
    (hm : read w.now m (Path.document.index before.length) = .error e) :
    (ExceptT.run (load l) w).1 = .error (.ofInvalid e) := by
  obtain ⟨ids, hrun⟩ := run_load_eq h
  obtain ⟨rest, hgiven⟩ := identifiedFrom_append_own hown before after w.ids
  obtain ⟨rules, hbefore⟩ := hbefore
  rw [← length_identifiedFrom before w.ids] at hm
  rw [hrun, hgiven, readItems_append_error hbefore hm]
  rfl

end Rule

namespace Session

variable {t : Session} {l : Location} {items : List Value}

/-- Whenever a file is imported again, after an import into rules with different identifiers and in a session that
no other operation has changed, then each written rule that has an identifier is put in the place of the rule with
this identifier, and only rules are added whose written ones lack identifiers. -/
def UpdatesOwn (t : Session) (l : Location) (items : List Value) : Prop :=
  ∀ current, (t.run Service.rules).1 = .ok current → (current.map Rule.id).Nodup →
    ∀ i s, t.run (Service.importRules l false) = (.ok i, s) →
      ∀ u : Session, u.store = s.store → u.world.files = s.world.files →
        u.world.files.content l = t.world.files.content l →
        ∀ incoming, (ExceptT.run (load l) u.world).1 = .ok incoming →
          ∃ given added, (u.run Service.rules).1 = .ok given ∧
            u.ImportSaves l false incoming (given.map (replacedFrom u.world.now incoming) ++ added) ∧
            (∀ r ∈ added, ∃ m ∈ items, m.lacksId = true ∧ m.LoadsAs r.id) ∧
            ∀ m ∈ items, m.lacksId = false → ∃ g ∈ given, m.WritesId g.id ∧
              ∃ r, (∀ path, read u.world.now m path = .ok r) ∧
                replacedFrom u.world.now incoming g = r.changedAt u.world.now

/-- What is brought in by a successful import was loaded. -/
theorem exists_load_of_importRules {replace : Bool} {i : Service.Imported} {s : Session}
    (h : t.run (Service.importRules l replace) = (.ok i, s)) :
    ∃ incoming ids, ExceptT.run (load l) t.world = (.ok incoming, { t.world with ids }) ∧ AreOrderly incoming := by
  obtain ⟨r, ids, horderly, hrun⟩ := run_load l (t.world.files.find l) t.world.now t.world.ids
  have hload := hrun t.world rfl rfl rfl
  cases r with
  | ok incoming => exact ⟨incoming, ids, hload, horderly incoming rfl⟩
  | error e =>
    rw [Service.importRules, run_bind_error (run_lift hload)] at h
    cases h

/-- The second import finds every identifier that a written rule has among those that the first one left. -/
theorem updatesOwn_of_lists (h : Lists l t.world items) : t.UpdatesOwn l items := by
  intro current hgives hdistinct i s himport u hstore hfiles hcontent incoming hload
  obtain ⟨first, ids, hfirst, ho⟩ := exists_load_of_importRules himport
  obtain ⟨r, ids', horderly, hrun⟩ := run_load l (u.world.files.find l) u.world.now u.world.ids
  have hsecond := hrun u.world rfl rfl rfl
  rw [hsecond] at hload
  cases hload
  have ho' : AreOrderly incoming := horderly incoming rfl
  have hsuits : t.store.Suits current := by
    rw [run_rules_fst] at hgives
    exact Store.suits_of_run_rules (Prod.ext hgives rfl)
  have hgiven := (importSaves_merging hfirst hgives).run_rules (hsuits.merge ho t.world.now) himport hstore hfiles
  let given := (merge t.world.now current first).map t.store.keep
  have hids : given.map Rule.id = ((current ++ first).map Rule.id).eraseDups := by
    rw [t.store.map_id_map_keep, map_id_merge t.world.now hdistinct ho.distinct]
  have hnodup : (given.map Rule.id).Nodup := hids ▸ Text.nodup_eraseDups _
  have hsaves := importSaves_merging hsecond hgiven
  rw [merge_eq hnodup ho'.distinct] at hsaves
  have hloads := forall₂_of_load h (by rw [hfirst])
  have hloads' := forall₂_of_load (h.of_content hcontent) (by rw [hsecond])
  -- a written identifier is that of a rule from the first import, and so of one that is given
  have hfound : ∀ m ∈ items, m.lacksId = false → ∃ g ∈ given, m.WritesId g.id := by
    intro m hm hown
    obtain ⟨r, hr, hloaded⟩ := exists_mem_right_of_forall₂ hloads hm
    have hmem : r.id ∈ given.map Rule.id := by
      rw [hids, List.mem_eraseDups, List.map_append]
      exact List.mem_append_right _ (List.mem_map_of_mem hr)
    obtain ⟨g, hg, hid⟩ := List.mem_map.1 hmem
    exact ⟨g, hg, hid ▸ hloaded.writesId hown⟩
  refine ⟨given, _, hgiven, hsaves, ?_, ?_⟩
  · intro r hr
    obtain ⟨hr, hnew⟩ := List.mem_filter.1 hr
    obtain ⟨m, hm, hloaded⟩ := exists_mem_left_of_forall₂ hloads' hr
    refine ⟨m, hm, ?_, hloaded.loadsAs⟩
    by_contra hown
    have hown := Bool.eq_false_iff.2 hown
    obtain ⟨g, hg, hid⟩ := hfound m hm hown
    have hsame : g.id = r.id := Option.some.inj (hid.symm.trans (hloaded.writesId hown))
    rw [decide_eq_true_eq] at hnew
    exact hnew (hsame ▸ List.mem_map_of_mem hg)
  · intro m hm hown
    obtain ⟨g, hg, hid⟩ := hfound m hm hown
    obtain ⟨r, hr, hloaded⟩ := exists_mem_right_of_forall₂ hloads' hm
    have hsame : g.id = r.id := Option.some.inj (hid.symm.trans (hloaded.writesId hown))
    refine ⟨g, hg, hid, r, hloaded.reads hown, ?_⟩
    unfold replacedFrom
    rw [hsame, withId?_eq_some_of_mem ho'.distinct hr]

/-- **Which identifiers files give.**  A written rule gets a new identifier if it is an object whose identifier is
missing or null, the empty text, or void, and every other one is read as it stands, in its place.  It is loaded with
the text of its identifier, refused as it is read, and so refused at its identifier if this is not accepted; and
importing the file again puts it into its place. -/
theorem load_identifies (h : Lists l t.world items) :
    (∀ m : Value, m.lacksId = true ↔ ∃ fields, m.fields? = some fields ∧
      (fields.present? "id" = none ∨ fields.get? "id" = some (.text "") ∨
        ∃ w, fields.get? "id" = some w ∧ w.IsVoid)) ∧
    (∃ given, items.Forall₂ IsIdentified given ∧
      (ExceptT.run (load l) t.world).1 = (readItems t.world.now .document given).mapError .ofInvalid) ∧
    (∀ rules, (ExceptT.run (load l) t.world).1 = .ok rules → items.Forall₂ (Loads t.world.now) rules) ∧
    (∀ before m after, items = before ++ m :: after → m.lacksId = false →
      (∃ rules, readEach t.world.now .document 0 (identifiedFrom t.world.ids before) = .ok rules) →
        (∀ e, read t.world.now m (Path.document.index before.length) = .error e →
          (ExceptT.run (load l) t.world).1 = .error (.ofInvalid e)) ∧
        ∀ fields w fault, m.fields? = some fields → fields.present? "id" = some w →
          faultOf w.readId = some fault → (ExceptT.run (load l) t.world).1 =
            .error (.ofInvalid ⟨Path.document.along [.index before.length, .field "id"], fault⟩)) ∧
    t.UpdatesOwn l items := by
  refine ⟨fun m => Value.lacksId_eq_true_iff, ?_, fun rules => forall₂_of_load h, ?_, updatesOwn_of_lists h⟩
  · obtain ⟨ids, hrun⟩ := run_load_eq h
    exact ⟨_, forall₂_identifiedFrom items t.world.ids, by rw [hrun]⟩
  · rintro before m after rfl hown hbefore
    refine ⟨fun e => load_eq_error_of_own h hown hbefore, ?_⟩
    intro fields w fault hf hw hid
    exact load_eq_error_of_own h hown hbefore (read_of_readId_eq_error hf hw hid)

/-- A written rule with some value as its identifier. -/
def adultsWithId (id : Value) : Value :=
  .object [("id", id), ("name", .text "Adults"), ("label", .text "adult"),
    ("conditions", .object [("key", .text "age"), ("operator", .text ">="), ("value", .int 18)])]

/-- The identifiers of the rules in a file with some written rules. -/
def loadedIds (items : List Value) : Option (List String) :=
  (ExceptT.run (load exportFile) (documentWorld (.array items))).1.toOption.map fun rules => rules.map Rule.id

theorem lists_documentWorld {items : List Value} (hexact : (Value.array items).isExact = true)
    (hnesting : (Value.array items).nesting ≤ Json.maxDepth) :
    Lists exportFile (documentWorld (.array items)) items :=
  ⟨.array items, by rw [run_readDocument_documentWorld hexact hnesting], rfl⟩

theorem loadedIds_eq {items : List Value} (hexact : (Value.array items).isExact = true)
    (hnesting : (Value.array items).nesting ≤ Json.maxDepth) :
    loadedIds items = (readItems .epoch .document (identifiedFrom ⟨0, 0⟩ items)).toOption.map fun rules =>
      rules.map Rule.id := by
  obtain ⟨ids, hrun⟩ := run_load_eq (lists_documentWorld hexact hnesting)
  unfold loadedIds
  rw [hrun]
  show ((readItems .epoch .document (identifiedFrom ⟨0, 0⟩ items)).mapError Failure.ofInvalid).toOption.map _ = _
  cases readItems .epoch .document (identifiedFrom ⟨0, 0⟩ items) with
  | error e => rfl
  | ok rules => rfl

/-- A rule with a number for its identifier keeps it, and one with a null gets a new identifier. -/
theorem load_identifies_numbered :
    let items := [adultsWithId (.int 7), adultsWithId .null]
    let t : Session := ⟨.memory [] [], documentWorld (.array items)⟩
    Lists exportFile t.world items ∧ items.map Value.lacksId = [false, true] ∧
      loadedIds items = some ["7", "rule-000000000000"] ∧
      (∃ given, items.Forall₂ IsIdentified given ∧ (ExceptT.run (load exportFile) t.world).1 =
        (readItems t.world.now .document given).mapError .ofInvalid) ∧
      (∀ rules, (ExceptT.run (load exportFile) t.world).1 = .ok rules →
        items.Forall₂ (Loads t.world.now) rules) ∧
      t.UpdatesOwn exportFile items := by
  intro items t
  have hexact : (Value.array items).isExact = true := by decide +kernel
  have hnesting : (Value.array items).nesting ≤ Json.maxDepth := by decide +kernel
  have hlists : Lists exportFile t.world items := lists_documentWorld hexact hnesting
  have hids : loadedIds items = some ["7", "rule-000000000000"] := by
    rw [loadedIds_eq hexact hnesting]
    decide +kernel
  obtain ⟨-, hgiven, hloaded, -, hupdates⟩ := load_identifies hlists
  exact ⟨hlists, by decide +kernel, hids, hgiven, hloaded, hupdates⟩

/-- A zero is accepted as an identifier where a rule is read, and replaced by a new one where it is loaded; a
switch is not accepted, and loaded all the same. -/
theorem load_replaces_void_ids :
    (Rule.read .epoch (adultsWithId (.int 0)) .document).toOption.map Rule.id = some "0" ∧
      loadedIds [adultsWithId (.int 0)] = some ["rule-000000000000"] ∧
      (Rule.read .epoch (adultsWithId (.bool false)) .document).toOption.map Rule.id = none ∧
      loadedIds [adultsWithId (.bool false)] = some ["rule-000000000000"] := by
  rw [loadedIds_eq (by decide +kernel) (by decide +kernel), loadedIds_eq (by decide +kernel) (by decide +kernel)]
  decide +kernel

end Session

end RuleLabels
