import Mathlib.Data.List.Forall2
import Mathlib.Tactic.Common
import RuleLabels.CommandLine
import RuleLabels.Http
import RuleLabels.Proofs.Checked
import RuleLabels.Proofs.Statistics.Counts
import RuleLabels.Proofs.Time.Calendar
import RuleLabels.Proofs.Time.Spelling

/-!
# Summaries depend on instants

An instant is told in many ways: at any distance from universal time, and each of them has many texts.  Records and
bounds may have their times told in either of them.  A summary is made of the instants alone, so it is the same for
records and bounds that are respelled, from reading them over the selection and the counts to the order of the
newest records.

* `Value.SameInstant`: values that are read as times of one instant; `Value.sameInstant_of_spells` has its texts;
* `Record.rel_readEach`: respelled records are read as records that differ in their distances from universal time;
* `Record.select_alike` and `Snapshot.newestFirst_alike`: they are selected and sorted alike;
* `Http.criteria_eq_given` and `CommandLine.criteria_eq_given`: how the bounds of a span are given;
* `Snapshot.ofRecords_respelled`: summaries of respelled records under respelled bounds.
-/

namespace RuleLabels

/-! ## Comparisons -/

/-- Timestamps compare. -/
theorem Timestamp.isNotAfter?_toMoment (t u : Timestamp) :
    t.toMoment.isNotAfter? u.toMoment = some (decide (t.instant ≤ u.instant)) := rfl

/-- The times of a record and of a span compare, by their instants. -/
theorem Criteria.spans?_eq_instants (now : Timestamp) (c : Criteria) (r : Record) :
    c.spans? now r = some (!c.hasBounds || (decide ((c.since.getD .epoch).instant ≤ r.createdAt.instant) &&
      decide (r.createdAt.instant ≤ (c.till.getD now).instant))) := by
  rw [spans?]
  cases c.hasBounds with
  | false => rfl
  | true =>
    rw [if_pos rfl, Timestamp.isNotAfter?_toMoment, Timestamp.isNotAfter?_toMoment]
    cases decide ((c.since.getD .epoch).instant ≤ r.createdAt.instant) <;> rfl

theorem Criteria.spans?_eq (now : Timestamp) (c : Criteria) (r : Record) : c.spans? now r = some (c.spans now r) := by
  rw [spans, spans?_eq_instants, Option.getD_some]

/-! ## Values of one instant -/

namespace Value

/-- Two values are read as times of the same instant. -/
def SameInstant (v w : Value) : Prop :=
  ∃ t u : Timestamp, t.instant = u.instant ∧ ∀ path, v.readTimestamp path = .ok t ∧ w.readTimestamp path = .ok u

theorem sameInstant_of_moment? {s s' : String} {m n : Moment} (hs : Text.allBlank s = false)
    (hs' : Text.allBlank s' = false) (hm : Iso.moment? s = some m) (hn : Iso.moment? s' = some n)
    (h : m.toTimestamp.instant = n.toTimestamp.instant) : SameInstant (text s) (text s') := by
  refine ⟨_, _, h, fun path => ⟨?_, ?_⟩⟩
  · simp only [readTimestamp, hs, hm, Bool.false_eq_true, if_false]
  · simp only [readTimestamp, hs', hn, Bool.false_eq_true, if_false]

/-- Texts of moments of one instant. -/
theorem sameInstant_of_spells {m n : Moment} {s s' : List Char} (hm : Iso.Spells m s) (hn : Iso.Spells n s')
    (h : m.toTimestamp.instant = n.toTimestamp.instant) :
    SameInstant (text (String.ofList s)) (text (String.ofList s')) := by
  have hblank : ∀ {m : Moment} {s : List Char}, Iso.Spells m s → Text.allBlank (String.ofList s) = false := by
    intro m s h
    rw [Text.allBlank, String.toList_ofList, List.all_eq_false]
    simpa using Iso.exists_not_isBlank_of_spells h
  exact sameInstant_of_moment? (hblank hm) (hblank hn) (Iso.moment?_of_spells hm) (Iso.moment?_of_spells hn) h

theorem SameInstant.isNull_eq {v w : Value} (h : SameInstant v w) : v.isNull = false ∧ w.isNull = false := by
  obtain ⟨t, u, -, hread⟩ := h
  obtain ⟨hv, hw⟩ := hread .document
  constructor
  · cases v with
    | null => exact absurd hv refuse_ne_ok
    | _ => rfl
  · cases w with
    | null => exact absurd hw refuse_ne_ok
    | _ => rfl

end Value

/-! ## Respelled fields -/

namespace Fields

/-- The names under which a record has its time. -/
def timeNames : List String := ["createdAt", "created_at", "timestamp"]

/-- The same value, or times of one instant under a name for times. -/
def RespelledAt (key : String) (v w : Value) : Prop := v = w ∨ key ∈ timeNames ∧ v.SameInstant w

/-- Fields whose times may be spelled in other ways. -/
def Respelled : Fields → Fields → Prop := List.Forall₂ fun f g => f.1 = g.1 ∧ RespelledAt f.1 f.2 g.2

variable {fields fields' : Fields}

theorem rel_get? (h : Respelled fields fields') (key : String) :
    Option.Rel (RespelledAt key) (fields.get? key) (fields'.get? key) := by
  induction h with
  | nil => exact .none
  | @cons f g rest rest' hfg _ ih =>
    obtain ⟨name, v⟩ := f
    obtain ⟨name', w⟩ := g
    obtain ⟨hname, hvalue⟩ := hfg
    cases hname
    rw [get?, get?, List.lookup_cons, List.lookup_cons]
    by_cases hkey : key = name
    · subst hkey
      rw [beq_self_eq_true]
      exact .some hvalue
    · rw [beq_false_of_ne hkey]
      exact ih

/-- Other fields than times are the same. -/
theorem get?_eq_of_respelled (h : Respelled fields fields') {key : String} (hkey : key ∉ timeNames) :
    fields'.get? key = fields.get? key := by
  have hrel := rel_get? h key
  generalize fields.get? key = v at hrel ⊢
  generalize fields'.get? key = w at hrel ⊢
  cases hrel with
  | none => rfl
  | some hvalue =>
    obtain rfl | ⟨hmem, -⟩ := hvalue
    · rfl
    · exact absurd hmem hkey

theorem rel_present? (h : Respelled fields fields') (key : String) :
    Option.Rel (RespelledAt key) (fields.present? key) (fields'.present? key) := by
  have hrel := rel_get? h key
  rw [present?, present?]
  generalize fields.get? key = v at hrel ⊢
  generalize fields'.get? key = w at hrel ⊢
  cases hrel with
  | none => exact .none
  | @some v w hvalue =>
    obtain rfl | ⟨hmem, hsame⟩ := hvalue
    · cases hnull : v.isNull with
      | true => simp [Option.filter, hnull]
      | false => simpa [Option.filter, hnull] using Option.Rel.some (.inl rfl)
    · obtain ⟨hv, hw⟩ := hsame.isNull_eq
      simpa [Option.filter, hv, hw] using Option.Rel.some (.inr ⟨hmem, hsame⟩)

/-- The first of some fields that is there has the same name. -/
theorem rel_firstPresent? (h : Respelled fields fields') (keys : List String) :
    Option.Rel (fun f g => f.1 = g.1 ∧ RespelledAt f.1 f.2 g.2) (fields.firstPresent? keys)
      (fields'.firstPresent? keys) := by
  induction keys with
  | nil => exact .none
  | cons key rest ih =>
    have hrel := rel_present? h key
    rw [firstPresent?, firstPresent?, List.findSome?_cons, List.findSome?_cons]
    generalize fields.present? key = v at hrel ⊢
    generalize fields'.present? key = w at hrel ⊢
    cases hrel with
    | none => exact ih
    | some hvalue => exact .some ⟨rfl, hvalue⟩

end Fields

/-! ## Respelled records -/

namespace Record

/-- Two records are the same but for the distances from universal time at which their times are told. -/
structure Alike (r r' : Record) : Prop where
  id : r'.id = r.id
  payload : r'.payload = r.payload
  labels : r'.labels = r.labels
  instant : r'.createdAt.instant = r.createdAt.instant

theorem Alike.refl (r : Record) : r.Alike r := ⟨rfl, rfl, rfl, rfl⟩

/-- Documents of records that are the same but for the spelling of their times. -/
inductive Respelled : Value → Value → Prop
  | refl (v : Value) : Respelled v v
  | object {fields fields' : Fields} : fields.Respelled fields' → Respelled (.object fields) (.object fields')

theorem rel_read {v w : Value} (h : Respelled v w) (path : Path) : Checked.Rel Alike (read v path) (read w path) := by
  cases h with
  | refl => exact .refl Alike.refl _
  | @object fields fields' h =>
    rw [read, read]
    refine (.ok h : Checked.Rel Fields.Respelled (.ok fields) (.ok fields')).bind fun fields fields' h => ?_
    -- what is read before the time is the same
    have hget : ∀ key ∉ Fields.timeNames, fields'.get? key = fields.get? key := fun _ => Fields.get?_eq_of_respelled h
    have hrequire : ∀ key ∉ Fields.timeNames, fields'.require key path = fields.require key path := by
      intro key hkey
      rw [Fields.require, Fields.require, Fields.present?, Fields.present?, hget key hkey]
    rw [hrequire "id" (by decide), hrequire "payload" (by decide), hget "labels" (by decide)]
    refine .bind_same fun id => .bind_same fun v => .bind_same fun payload => .bind_same fun labels => ?_
    have hfirst := Fields.rel_firstPresent? h ["createdAt", "created_at", "timestamp"]
    generalize fields.firstPresent? ["createdAt", "created_at", "timestamp"] = time at hfirst ⊢
    generalize fields'.firstPresent? ["createdAt", "created_at", "timestamp"] = time' at hfirst ⊢
    cases hfirst with
    | none => exact .error _
    | @some f g hfg =>
      obtain ⟨name, time⟩ := f
      obtain ⟨name', time'⟩ := g
      obtain ⟨hname, htime⟩ := hfg
      cases hname
      simp only
      split
      · exact .error _
      · obtain heq | ⟨-, t, u, hinstant, hread⟩ := htime
        · cases heq
          exact .refl Alike.refl _
        · rw [(hread _).1, (hread _).2]
          exact .ok ⟨rfl, rfl, rfl, hinstant.symm⟩

/-- Respelled records are read as records that are alike, or refused for the same fault. -/
theorem rel_readEach (path : Path) {vs ws : List Value} (h : List.Forall₂ Respelled vs ws) :
    ∀ i, Checked.Rel (List.Forall₂ Alike) (readEach path i vs) (readEach path i ws) := by
  induction h with
  | nil => exact fun _ => .ok .nil
  | @cons v w vs ws hvw _ ih =>
    intro i
    have hrel := rel_read hvw (path.index i)
    rw [readEach, readEach]
    generalize read v (path.index i) = r at hrel ⊢
    generalize read w (path.index i) = r' at hrel ⊢
    cases hrel with
    | error e => exact .error e
    | ok hr => exact (ih (i + 1)).map fun _ _ hrest => .cons hr hrest

end Record

/-! ## Respelled bounds -/

namespace Criteria

/-- The criteria that are given by a label and by the values of bounds, where there are any. -/
def given (label : Option String) (since till : Option Value) : Checked Criteria := do
  let since ← since.mapM fun v => v.readTimestamp (Path.document.field "from")
  let till ← till.mapM fun v => v.readTimestamp (Path.document.field "to")
  return ⟨label, since, till⟩

end Criteria

/-- The query of a request gives its label unless it is empty, and its bounds unless they are blank. -/
theorem Http.criteria_eq_given (t : Http.Target) :
    Http.criteria t = Criteria.given ((t.parameter? "label").filter (!·.isEmpty))
      (((t.parameter? "from").filter (!Text.allBlank ·)).map .text)
      (((t.parameter? "to").filter (!Text.allBlank ·)).map .text) := by
  have hbound : ∀ name, Http.timeBound t name =
      (((t.parameter? name).filter (!Text.allBlank ·)).map Value.text).mapM fun v =>
        v.readTimestamp (Path.document.field name) := by
    intro name
    rw [Http.timeBound]
    cases t.parameter? name with
    | none => rfl
    | some s =>
      cases hblank : Text.allBlank s with
      | true =>
        have hgiven : (some s).filter (!Text.allBlank ·) = none := by simp [Option.filter, hblank]
        simp only [hgiven, hblank, if_true]
        rfl
      | false =>
        have hgiven : (some s).filter (!Text.allBlank ·) = some s := by simp [Option.filter, hblank]
        simp only [hgiven, hblank, Bool.false_eq_true, if_false, Option.map_some, Option.mapM_some]
        rfl
  rw [Http.criteria, Criteria.given, hbound, hbound]

/-- The options of a command give its label and its bounds. -/
theorem CommandLine.criteria_eq_given (args : List String) :
    CommandLine.criteria args = Criteria.given (CommandLine.option? "--label" args)
      ((CommandLine.given? "--from" args).map .text) ((CommandLine.given? "--to" args).map .text) := by
  have hbound : ∀ key name, CommandLine.timeBound key name args =
      ((CommandLine.given? key args).map Value.text).mapM fun v => v.readTimestamp (Path.document.field name) := by
    intro key name
    rw [CommandLine.timeBound]
    cases CommandLine.given? key args with
    | none => rfl
    | some s =>
      rw [Option.map_some, Option.mapM_some]
      rfl
  rw [CommandLine.criteria, Criteria.given, hbound, hbound]

namespace Criteria

/-- Two criteria are the same but for the distances from universal time at which their bounds are told. -/
structure Alike (c c' : Criteria) : Prop where
  label : c'.label = c.label
  since : Option.Rel (fun t u => t.instant = u.instant) c.since c'.since
  till : Option.Rel (fun t u => t.instant = u.instant) c.till c'.till

/-- Respelled bounds give criteria that are alike. -/
theorem exists_given {since since' till till' : Option Value} (label : Option String)
    (hsince : Option.Rel Value.SameInstant since since') (htill : Option.Rel Value.SameInstant till till') :
    ∃ c c', given label since till = .ok c ∧ given label since' till' = .ok c' ∧ c.Alike c' := by
  have hbound : ∀ {v w : Option Value}, Option.Rel Value.SameInstant v w → ∀ path, ∃ t u,
      (v.mapM fun v => v.readTimestamp path) = .ok t ∧ (w.mapM fun v => v.readTimestamp path) = .ok u ∧
        Option.Rel (fun t u : Timestamp => t.instant = u.instant) t u := by
    intro v w h path
    cases h with
    | none => exact ⟨none, none, rfl, rfl, .none⟩
    | some h =>
      obtain ⟨t, u, hinstant, hread⟩ := h
      refine ⟨some t, some u, ?_, ?_, .some hinstant⟩
      · rw [Option.mapM_some, (hread path).1]
        rfl
      · rw [Option.mapM_some, (hread path).2]
        rfl
  obtain ⟨t, t', ht, ht', hsince⟩ := hbound hsince (Path.document.field "from")
  obtain ⟨u, u', hu, hu', htill⟩ := hbound htill (Path.document.field "to")
  refine ⟨⟨label, t, u⟩, ⟨label, t', u'⟩, ?_, ?_, rfl, hsince, htill⟩
  · rw [given, ht, hu]
    rfl
  · rw [given, ht', hu']
    rfl

variable {c c' : Criteria} {r r' : Record}

theorem Alike.hasBounds_eq (hc : c.Alike c') : c'.hasBounds = c.hasBounds := by
  have hsome : ∀ {t u : Option Timestamp}, Option.Rel (fun t u => t.instant = u.instant) t u →
      u.isSome = t.isSome := by
    intro t u h
    cases h with
    | none => rfl
    | some _ => rfl
  rw [hasBounds, hasBounds, hsome hc.since, hsome hc.till]

/-- Whether a record is asked for depends on instants. -/
theorem Alike.spans_eq (hc : c.Alike c') (hr : r.Alike r') (now : Timestamp) : c'.spans now r' = c.spans now r := by
  have hbound : ∀ {t u : Option Timestamp}, Option.Rel (fun t u => t.instant = u.instant) t u →
      ∀ d : Timestamp, (u.getD d).instant = (t.getD d).instant := by
    intro t u h d
    cases h with
    | none => rfl
    | some h => exact h.symm
  rw [spans, spans, spans?_eq_instants, spans?_eq_instants, hc.hasBounds_eq, hbound hc.since, hbound hc.till, hr.instant]

theorem Alike.carries_eq (hc : c.Alike c') (hr : r.Alike r') : c'.carries r' = c.carries r := by
  rw [carries, carries, hc.label, hr.labels]

end Criteria

/-! ## Respelled summaries -/

variable {records records' : List Record}

theorem Record.select_alike {c c' : Criteria} (hc : c.Alike c') (h : List.Forall₂ Record.Alike records records')
    (now : Timestamp) :
    List.Forall₂ Record.Alike (Record.select now c records) (Record.select now c' records') := by
  refine List.rel_filter ?_ h
  intro r r' hr
  simp only [hc.spans_eq hr now, hc.carries_eq hr]

/-- Lists of records that are alike have the same of what does not depend on their times. -/
theorem Record.map_eq_of_alike {α : Type} {f : Record → α} (hf : ∀ r r', r.Alike r' → f r' = f r)
    (h : List.Forall₂ Record.Alike records records') : records'.map f = records.map f := by
  induction h with
  | nil => rfl
  | cons hr _ ih => rw [List.map_cons, List.map_cons, hf _ _ hr, ih]

/-- A tally is made of the labels alone. -/
theorem Tally.ofRecords_congr (h : records'.map Record.labels = records.map Record.labels) :
    ofRecords records' = ofRecords records := by
  have htally : ∀ rs : List Record, ofRecords rs =
      (rs.map Record.labels).foldl (fun t labels => labels.eraseDups.foldl (fun t l => bump l t) t) [] := by
    intro rs
    rw [List.foldl_map]
    rfl
  rw [htally, htally, h]

/-- Lists that are related are the two sides of one list of pairs. -/
theorem exists_pairs {α β : Type} {R : α → β → Prop} {xs : List α} {ys : List β} (h : List.Forall₂ R xs ys) :
    ∃ ps : List { p : α × β // R p.1 p.2 }, ps.map (·.1.1) = xs ∧ ps.map (·.1.2) = ys := by
  induction h with
  | nil => exact ⟨[], rfl, rfl⟩
  | @cons x y _ _ hxy _ ih =>
    obtain ⟨ps, rfl, rfl⟩ := ih
    exact ⟨⟨(x, y), hxy⟩ :: ps, rfl, rfl⟩

/-- Lists that are related are sorted into lists that are related, if they are sorted by what related items share. -/
theorem forall₂_mergeSort {α β : Type} {R : α → β → Prop} {le : α → α → Bool} {le' : β → β → Bool} {xs : List α}
    {ys : List β} (hle : ∀ a b a' b', R a a' → R b b' → le a b = le' a' b') (h : List.Forall₂ R xs ys) :
    List.Forall₂ R (xs.mergeSort le) (ys.mergeSort le') := by
  obtain ⟨ps, rfl, rfl⟩ := exists_pairs h
  have hleft : (ps.mergeSort fun p q => le p.1.1 q.1.1).map (·.1.1) = (ps.map (·.1.1)).mergeSort le :=
    List.map_mergeSort fun _ _ _ _ => rfl
  have hright : (ps.mergeSort fun p q => le p.1.1 q.1.1).map (·.1.2) = (ps.map (·.1.2)).mergeSort le' :=
    List.map_mergeSort fun p _ q _ => hle _ _ _ _ p.2 q.2
  rw [← hleft, ← hright, List.forall₂_map_left_iff, List.forall₂_map_right_iff, List.forall₂_same]
  exact fun p _ => p.2

namespace Snapshot

/-- The newest records are those of the same places. -/
theorem newestFirst_alike (h : List.Forall₂ Record.Alike records records') :
    List.Forall₂ Record.Alike (newestFirst records) (newestFirst records') := by
  rw [newestFirst, newestFirst]
  have hdated : List.Forall₂ (fun a b : Int × Record => a.1 = b.1 ∧ a.2.Alike b.2)
      (records.reverse.map fun r => (r.createdAt.instant, r))
      (records'.reverse.map fun r => (r.createdAt.instant, r)) :=
    List.rel_map (fun _ _ hr => ⟨hr.instant.symm, hr⟩) (List.rel_reverse h)
  refine List.rel_map (fun _ _ hr => hr.2) (forall₂_mergeSort ?_ hdated)
  rintro a b a' b' ⟨ha, -⟩ ⟨hb, -⟩
  rw [ha, hb]

/-- Two summaries are the same but for the distances from universal time at which their newest records are told. -/
structure Alike (s s' : Snapshot) : Prop where
  total : s'.total = s.total
  shares : s'.shares = s.shares
  updatedAt : s'.updatedAt = s.updatedAt
  recent : List.Forall₂ Record.Alike s.recent s'.recent

theorem ofSelected_alike (now : Timestamp) (h : List.Forall₂ Record.Alike records records') :
    (ofSelected now records).Alike (ofSelected now records') where
  total := h.length_eq.symm
  shares := by
    have htally := Tally.ofRecords_congr (Record.map_eq_of_alike (fun _ _ hr => hr.labels) h)
    rw [ofSelected, ofSelected, htally, h.length_eq]
  updatedAt := rfl
  recent := List.forall₂_take _ (newestFirst_alike h)

theorem ofRecords_alike {c c' : Criteria} (hc : c.Alike c') (now : Timestamp)
    (h : List.Forall₂ Record.Alike records records') :
    (ofRecords now c records).Alike (ofRecords now c' records') :=
  ofSelected_alike now (Record.select_alike hc h now)

/-- **Summaries depend on instants.**  Let the times of records and the bounds of a span be respelled, as values that
are read as times of the same instants.  Then the records are refused for the same fault, or they are read; and at
any time and for any label the same of them are selected, and the summaries have the same total, the same counts
and percentages of labels, and the same newest records in the same order.

All texts of moments of one instant are such values, and at each distance from universal time there is a moment of
that instant, where the calendar reaches.  None of the comparisons on the way fails. -/
theorem ofRecords_respelled (label : Option String) (path : Path) {vs ws : List Value}
    {since since' till till' : Option Value} (hrecords : List.Forall₂ Record.Respelled vs ws)
    (hsince : Option.Rel Value.SameInstant since since') (htill : Option.Rel Value.SameInstant till till') :
    (∃ c c', Criteria.given label since till = .ok c ∧ Criteria.given label since' till' = .ok c' ∧
      Checked.Rel
        (fun records records' => ∀ now,
          (Record.select now c' records').map Record.id = (Record.select now c records).map Record.id ∧
            (ofRecords now c' records').recent.map Record.id = (ofRecords now c records).recent.map Record.id ∧
            (ofRecords now c records).Alike (ofRecords now c' records'))
        (Record.readEach path 0 vs) (Record.readEach path 0 ws)) ∧
      (∀ now c r, Criteria.spans? now c r = some (Criteria.spans now c r)) ∧
      (∀ t u : Timestamp, t.toMoment.isNotAfter? u.toMoment = some (decide (t.instant ≤ u.instant))) ∧
      (∀ m n s s', Iso.Spells m s → Iso.Spells n s' → m.toTimestamp.instant = n.toTimestamp.instant →
        Value.SameInstant (.text (String.ofList s)) (.text (String.ofList s'))) ∧
      ∀ (m : Moment) (o : Offset), (dayLength : Int) ≤ m.toTimestamp.instant + o.microseconds →
        m.toTimestamp.instant + o.microseconds < (Date.lastOrdinal + 1) * dayLength →
        ∃ n : Moment, n.offset = some o ∧ n.toTimestamp.instant = m.toTimestamp.instant := by
  refine ⟨?_, Criteria.spans?_eq, Timestamp.isNotAfter?_toMoment, fun m n s s' => Value.sameInstant_of_spells, ?_⟩
  · obtain ⟨c, c', hc, hc', halike⟩ := Criteria.exists_given label hsince htill
    refine ⟨c, c', hc, hc', (Record.rel_readEach path hrecords 0).imp fun records records' h now => ?_⟩
    have hids := fun {rs rs' : List Record} (h : List.Forall₂ Record.Alike rs rs') =>
      Record.map_eq_of_alike (fun _ _ hr => hr.id) h
    have hsummary := ofRecords_alike halike now h
    exact ⟨hids (Record.select_alike halike h now), hids hsummary.recent, hsummary⟩
  · intro m o h h'
    obtain ⟨u, rfl, hu⟩ := m.toTimestamp.exists_instant_eq o h h'
    exact ⟨u.toMoment, rfl, hu⟩

/-- The document of a record without a payload. -/
def datedValue (id time : String) : Value :=
  .object [("id", .text id), ("payload", .object []), ("labels", .array [.text "Green"]), ("createdAt", .text time)]

theorem ofRecords_respelled_midnight :
    let v := datedValue "1" "2024-06-01T00:30:00.5+02:00"
    let w := datedValue "1" " 2024-05-31 22:30:00.500Z "
    let since := Value.text "2024-05-31T22:30:00.5"
    let since' := Value.text "2024-05-31T12:30:00.50-10:00"
    (List.Forall₂ Record.Respelled [v] [w] ∧ Option.Rel Value.SameInstant (some since) (some since')) ∧
      ∃ c c', Criteria.given none (some since) none = .ok c ∧ Criteria.given none (some since') none = .ok c' ∧
        Checked.Rel (fun records records' => (ofRecords .epoch c records).total = (ofRecords .epoch c' records').total)
          (Record.readEach .document 0 [v]) (Record.readEach .document 0 [w]) := by
  intro v w since since'
  have htime : Value.SameInstant (.text "2024-06-01T00:30:00.5+02:00") (.text " 2024-05-31 22:30:00.500Z ") :=
    Value.sameInstant_of_moment?
      (m := ⟨⟨2024, 6, 1, by decide⟩, ⟨0, 30, 0, 500000, by decide⟩, some ⟨7200000000, by decide⟩⟩)
      (n := ⟨⟨2024, 5, 31, by decide⟩, ⟨22, 30, 0, 500000, by decide⟩, some .utc⟩)
      (by decide) (by decide) (by decide +kernel) (by decide +kernel) (by decide +kernel)
  have hbound : Value.SameInstant since since' :=
    Value.sameInstant_of_moment?
      (m := ⟨⟨2024, 5, 31, by decide⟩, ⟨22, 30, 0, 500000, by decide⟩, none⟩)
      (n := ⟨⟨2024, 5, 31, by decide⟩, ⟨12, 30, 0, 500000, by decide⟩, some ⟨-36000000000, by decide⟩⟩)
      (by decide) (by decide) (by decide +kernel) (by decide +kernel) (by decide +kernel)
  have hrecord : Record.Respelled v w :=
    .object (.cons ⟨rfl, .inl rfl⟩ (.cons ⟨rfl, .inl rfl⟩ (.cons ⟨rfl, .inl rfl⟩
      (.cons ⟨rfl, .inr ⟨List.mem_cons_self, htime⟩⟩ .nil))))
  have hrecords : List.Forall₂ Record.Respelled [v] [w] := .cons hrecord .nil
  have hsince : Option.Rel Value.SameInstant (some since) (some since') := .some hbound
  have htill : Option.Rel Value.SameInstant none none := .none
  obtain ⟨⟨c, c', hc, hc', hread⟩, -⟩ := ofRecords_respelled none .document hrecords hsince htill
  exact ⟨⟨hrecords, hsince⟩, c, c', hc, hc', hread.imp fun _ _ h => (h .epoch).2.2.total.symm⟩

end Snapshot

end RuleLabels
