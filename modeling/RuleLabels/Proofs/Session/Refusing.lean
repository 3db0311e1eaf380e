import RuleLabels.CommandLine
import RuleLabels.Proofs.Rule.Identifying
import RuleLabels.Proofs.Rule.Relocating
import RuleLabels.Proofs.Session.Importing

/-!
# Refused files of rules

A file of rules is loaded by reading the list in its document.  Where this list is refused, the reported place is
counted from the list: in a document that is a list this is the place of the fault, and in an object with the list
under `rules` it is a place to which nothing leads, since the step into `rules` is left out.

* `run_readDocument_ne_invalid`: a document that cannot be read is refused without a place;
* `load_refused_at_list`: where the fault of a refused file is found.
-/

namespace RuleLabels

open Rule

/-- An object has no items. -/
theorem Value.items?_eq_none_of_fields? {v : Value} {fields : Fields} (h : v.fields? = some fields) :
    v.items? = none := by
  fun_induction Value.fields? v with
  | case1 => rfl
  | case2 => rfl
  | case3 shown v ih => exact ih h
  | case4 => cases h

/-- A failure at a place is that of a fault. -/
theorem Failure.ofInvalid_eq_invalid {e e' : Invalid} (h : Failure.ofInvalid e = .invalid e') : e = e' := by
  unfold Failure.ofInvalid at h
  split at h
  · cases h
  · cases h
  · cases h
  · cases h
    rfl

namespace Rule

/-- A file that cannot be read, or whose text is no document, is refused without a place. -/
theorem run_readDocument_ne_invalid (l : Location) (w : World) (e : Invalid) :
    (ExceptT.run (readDocument l) w).1 ≠ .error (.invalid e) := by
  have hjson (text : String) : (ExceptT.run (jsonDocument l text) w).1 ≠ .error (.invalid e) := by
    unfold jsonDocument
    split
    · exact nofun
    · exact nofun
    · exact nofun
  have hyaml (text : String) : (ExceptT.run (yamlDocument l text) w).1 ≠ .error (.invalid e) := by
    unfold yamlDocument
    split
    · exact nofun
    · exact nofun
    · exact nofun
  unfold readDocument
  rw [Action.run_bind_ok (Action.run_get w)]
  split
  · exact nofun
  · split
    · exact nofun
    · split
      · exact hjson _
      · exact hyaml _

variable {l : Location} {w : World} {e : Invalid}

/-- A file that is refused at a place has a document with a list of rules in it. -/
theorem exists_lists_of_load (h : (ExceptT.run (load l) w).1 = .error (.invalid e)) :
    ∃ v items, (ExceptT.run (readDocument l) w).1 = .ok v ∧ itemsOf? v = some items := by
  obtain ⟨r, hr⟩ := run_readDocument_of_content l (w.files.content l)
  have hrun := hr w rfl
  unfold load at h
  cases r with
  | error f =>
    rw [Action.run_bind_error hrun] at h
    cases h
    exact absurd (by rw [hrun]) (run_readDocument_ne_invalid l w e)
  | ok v =>
    rw [Action.run_bind_ok hrun] at h
    cases hitems : itemsOf? v with
    | none =>
      simp only [hitems] at h
      cases h
    | some items => exact ⟨v, items, by rw [hrun], hitems⟩

/-- What a file is refused for is a fault in the list of its rules, at a place that is counted from there. -/
theorem hasFault_of_load {v : Value} {items : List Value}
    (hread : (ExceptT.run (readDocument l) w).1 = .ok v) (hitems : itemsOf? v = some items)
    (h : (ExceptT.run (load l) w).1 = .error (.invalid e)) :
    readItems w.now .document (identifiedFrom w.ids items) = .error e ∧
      ∃ i steps, e.path = Path.document.along (.index i :: steps) ∧
        v.HasFault Value.LoadsAs (stepsToItems v ++ .index i :: steps) e.fault := by
  obtain ⟨ids, hload⟩ := run_load_eq ⟨v, hread, hitems⟩
  rw [hload] at h
  have herror : readItems w.now .document (identifiedFrom w.ids items) = .error e := by
    cases hrules : readItems w.now .document (identifiedFrom w.ids items) with
    | ok rules =>
      rw [hrules] at h
      cases h
    | error e' =>
      rw [hrules] at h
      rw [Failure.ofInvalid_eq_invalid (Except.error.inj h)]
  obtain ⟨list, hreach, hlist⟩ := exists_reach?_stepsToItems hitems
  have hgiven := forall₂_identifiedFrom items w.ids
  obtain ⟨i, steps, hpath, hfault⟩ : ∃ i steps, e.path = Path.document.along (.index i :: steps) ∧
      list.HasFault Value.LoadsAs (.index i :: steps) e.fault :=
    hasFault_of_readItems hlist (hgiven.imp fun _ _ hg _ _ => hasFault_of_isIdentified hg)
      (hgiven.imp fun _ _ hg _ _ => loadsAs_of_isIdentified hg) herror
  exact ⟨herror, i, steps, hpath, .under hreach hfault⟩

end Rule

namespace Session

variable {l : Location} {w : World} {e : Invalid}

/-- **Where the fault of a refused file is found.**  A file that is refused at a place holds a document with a list
of rules, and the fault is found at the end of the steps to this list and the reported ones.  A reader of the whole
document reports all of these, for the same fault, if no written rule lacks an identifier.  The reported steps
alone are the same where the document is the list; in an object with the list under `rules` they lead nowhere.  A
check and an import of the file are refused alike. -/
theorem load_refused_at_list (h : (ExceptT.run (Rule.load l) w).1 = .error (.invalid e)) :
    ∃ v items steps, (ExceptT.run (readDocument l) w).1 = .ok v ∧ itemsOf? v = some items ∧
      e.path = Path.document.along steps ∧ e.path.text = "$" ++ String.join (steps.map Step.text) ∧
      v.HasFault Value.LoadsAs (stepsToItems v ++ steps) e.fault ∧
      ((∀ m ∈ items, m.lacksId = false) →
        readAll w.now v .document = .error ⟨Path.document.along (stepsToItems v ++ steps), e.fault⟩) ∧
      (v.fields? = none ∧ stepsToItems v = [] ∨
        v.fields?.isSome = true ∧ stepsToItems v = [.field "rules"] ∧ v.reach? steps = none) ∧
      (∀ args, (CommandLine.given? "--file" args).map Location.ofText = some l →
        (ExceptT.run (CommandLine.validateRules args) w).1 = .error (.invalid e)) ∧
      ∀ store replace, ((Session.mk store w).run (Service.importRules l replace)).1 = .error (.invalid e) := by
  obtain ⟨v, items, hread, hitems⟩ := exists_lists_of_load h
  obtain ⟨herror, i, steps, hpath, hfault⟩ := hasFault_of_load hread hitems h
  refine ⟨v, items, .index i :: steps, hread, hitems, hpath, by rw [hpath, Path.text_along]; rfl, hfault, ?_, ?_,
    ?_, ?_⟩
  · intro hown
    rw [identifiedFrom_of_own hown] at herror
    have herror : readItems w.now .document items = .error ⟨Path.document.along (.index i :: steps), e.fault⟩ := by
      rw [herror, ← hpath]
    rw [readAll_of_itemsOf? hitems]
    exact (relocates_readItems w.now items).eq_error_along herror _
  · unfold stepsToItems
    cases hf : v.fields? with
    | none => exact .inl ⟨rfl, rfl⟩
    | some fields =>
      refine .inr ⟨rfl, rfl, ?_⟩
      unfold Value.reach? Value.child?
      rw [Value.items?_eq_none_of_fields? hf]
      rfl
  · intro args hargs
    obtain ⟨path, hgiven, rfl⟩ := Option.map_eq_some_iff.1 hargs
    unfold CommandLine.validateRules CommandLine.withOption
    simp only [hgiven]
    cases hload : ExceptT.run (Rule.load (.ofText path)) w with
    | mk r w' =>
      rw [hload] at h
      obtain rfl : r = .error (.invalid e) := h
      rw [Action.run_bind_error hload]
  · intro store replace
    cases hload : ExceptT.run (Rule.load l) w with
    | mk r w' =>
      rw [hload] at h
      obtain rfl : r = .error (.invalid e) := h
      rw [Service.importRules, run_bind_error (run_lift hload)]

/-! ## A refused file -/

/-- The bare world with a document in a file. -/
def documentWorld (v : Value) : World :=
  { bareWorld with files := Files.empty.setContent ["export.json"] (.document v) }

/-- The document is read from the file. -/
theorem run_readDocument_documentWorld {v : Value} (hexact : v.isExact = true) (hnesting : v.nesting ≤ Json.maxDepth) :
    ExceptT.run (readDocument exportFile) (documentWorld v) = (.ok v, documentWorld v) := by
  have hfind : (documentWorld v).files.find exportFile = .ok (.file 0 (.document v)) := by
    refine Files.find_eq_ok_iff.2 ⟨["export.json"], ?_, ?_⟩
    · with_unfolding_all rfl
    · with_unfolding_all rfl
  exact run_readDocument_of_written rfl (Files.content_of_find hfind) hexact hnesting

/-- An object with a rule under `rules` that has no conditions. -/
def unconditional : Value :=
  .object [("rules", .array [.object [("id", .text "x"), ("name", .text "X"), ("label", .text "Y")]])]

theorem run_readDocument_unconditional :
    ExceptT.run (readDocument exportFile) (documentWorld unconditional) =
      (.ok unconditional, documentWorld unconditional) :=
  run_readDocument_documentWorld (by decide) (by decide)

/-- Its conditions are missed in the first rule of a list. -/
theorem run_load_unconditional : (ExceptT.run (Rule.load exportFile) (documentWorld unconditional)).1 =
    .error (.invalid ⟨Path.document.along [.index 0, .field "conditions"], .missing⟩) := by
  obtain ⟨ids, hload⟩ := run_load_eq ⟨unconditional, by rw [run_readDocument_unconditional], rfl⟩
  rw [hload]
  rfl

/-- The missing conditions are found in the first rule under `rules`. -/
theorem load_refused_at_list_unconditional :
    let w := documentWorld unconditional
    let e : Invalid := ⟨Path.document.along [.index 0, .field "conditions"], .missing⟩
    (ExceptT.run (Rule.load exportFile) w).1 = .error (.invalid e) ∧
      ∃ v items steps, (ExceptT.run (readDocument exportFile) w).1 = .ok v ∧ itemsOf? v = some items ∧
        e.path = Path.document.along steps ∧ e.path.text = "$" ++ String.join (steps.map Step.text) ∧
        v.HasFault Value.LoadsAs (stepsToItems v ++ steps) e.fault ∧
        ((∀ m ∈ items, m.lacksId = false) →
          readAll w.now v .document = .error ⟨Path.document.along (stepsToItems v ++ steps), e.fault⟩) := by
  intro w e
  obtain ⟨v, items, steps, hread, hitems, hpath, htext, hfault, hown, -⟩ :=
    load_refused_at_list run_load_unconditional
  exact ⟨run_load_unconditional, v, items, steps, hread, hitems, hpath, htext, hfault, hown⟩

/-- The file is refused at a place to which no steps lead in its document, and the document at another place. -/
theorem refused_load_leads_nowhere :
    (ExceptT.run (readDocument exportFile) (documentWorld unconditional)).1 = .ok unconditional ∧
      (ExceptT.run (Rule.load exportFile) (documentWorld unconditional)).1 =
        .error (.invalid ⟨Path.document.along [.index 0, .field "conditions"], .missing⟩) ∧
      readAll (documentWorld unconditional).now unconditional .document =
        .error ⟨Path.document.along [.field "rules", .index 0, .field "conditions"], .missing⟩ ∧
      unconditional.reach? [.index 0] = none ∧
      unconditional.reach? [.field "rules", .index 0] =
        some (.object [("id", .text "x"), ("name", .text "X"), ("label", .text "Y")]) :=
  ⟨by rw [run_readDocument_unconditional], run_load_unconditional, rfl, rfl, rfl⟩

end Session

end RuleLabels
