import Mathlib.Tactic.Common
import Mathlib.Logic.Function.Basic
import RuleLabels.Proofs.Race.Created

/-!
# Two edits at once

Two edits of the rules run on one store at once, each in a thread of its own, and their turns come in any
order.

* `Race.Progress`, `Race.Progress.turn` and `Race.Progress.after`: how far the race has come, what a turn
  makes of that, and what a run does;
* `Session.race_serial`: if neither edit saves while the other is open, they end as one after the other;
* `Session.race_loses_creation`: otherwise what was saved first may be lost.
-/

namespace RuleLabels

/-- Two threads on one session. -/
structure Race where
  session : Session
  threads : Bool → Thread

namespace Race

/-- Two edits that are to begin. -/
def start (s : Session) (editors : Bool → Editor) : Race := ⟨s, fun b => (editors b).thread⟩

/-- The race after the next turn of a thread. -/
def turn (r : Race) (b : Bool) : Race :=
  ⟨((r.threads b).turn r.session).2, Function.update r.threads b ((r.threads b).turn r.session).1⟩

/-- The race after turns of the threads, in their order. -/
def after (r : Race) : List Bool → Race
  | [] => r
  | b :: rest => after (r.turn b) rest

/-- No thread saves while the other one is open: has read the rules that its save rests on, and has not saved
yet. -/
def isUndisturbed (r : Race) : List Bool → Bool
  | [] => true
  | b :: rest =>
    !((r.threads b).task.saves && (r.threads !b).task.isOpen) && isUndisturbed (r.turn b) rest

variable {r : Race} {b : Bool}

theorem threads_turn_self (r : Race) (b : Bool) :
    (r.turn b).threads b = ((r.threads b).turn r.session).1 := Function.update_self ..

theorem threads_turn_of_ne {b b' : Bool} (h : b' ≠ b) (r : Race) : (r.turn b).threads b' = r.threads b' :=
  Function.update_of_ne h ..

end Race

namespace Session

/-- No rules that the store is asked to take change what is found under a name. -/
def Spares (s : Session) (l : Location) : Prop :=
  ∀ t rules, s.Matches t → (t.run (Service.saveRules rules)).2.world.files.find l = s.world.files.find l

/-- A store with order spares the files that are older than its own. -/
theorem HasOrder.spares {s : Session} {since : Nat} {l : Location} (h : HasOrder since s.store s.world)
    (hold : ∀ n c, s.world.files.find l = .ok (.file n c) → n < since) : s.Spares l := by
  intro t rules hst
  obtain ⟨k, hstores, -⟩ := h.of_matches hst
  rw [← hst.files] at hold ⊢
  rw [show Service.saveRules rules = (Write.rules rules).ask from rfl, Write.run_ask]
  rcases hrun : ExceptT.run ((Write.rules rules).carry t.store) t.world with ⟨e | store, w⟩
  · exact Files.find_congr (Write.run_carry_eq_error hrun).entries l
  · exact (Store.stores_of_saveRules hstores hrun).2.find l hold

end Session

/-! ## Before the first save -/

namespace Thread

variable {th th' : Thread} {s v : Session} {e : Editor}

theorem matches_enter (th : Thread) (s : Session) : s.Matches (th.enter s) := ⟨rfl, rfl, rfl⟩

/-- What is over stays as it is. -/
theorem turn_of_ended {outcome : Except Failure Answer} (h : th.task = .ended outcome) (s : Session) :
    (th.turn s).1.task = .ended outcome ∧ s.Matches (th.turn s).2 := by
  rw [turn, h]
  exact ⟨rfl, matches_enter th s⟩

theorem gives_of_ended {a : Answer} (h : th.task = .ended (.ok a)) (s : Session) : th.Gives s a s := by
  refine ⟨th.enter s, ?_, rfl, rfl, rfl⟩
  rw [h]
  rfl

/-- What is left of a thread comes to what its edit comes to: in a session, and unless the thread is open, in
every session with the same file to load. -/
structure Stands (s : Session) (e : Editor) (th : Thread) : Prop where
  sound : th.task.IsSound e.edit.operation.file?
  gives : ∀ a q, th.Gives s a q → e.thread.Gives s a q
  elsewhere : th.task.isOpen = false → ∀ t,
    (∀ l, e.edit.operation.file? = some l → t.world.files.find l = s.world.files.find l) →
      ∀ a q, th.Gives t a q → e.thread.Gives t a q

theorem Stands.start (s : Session) (e : Editor) : Stands s e e.thread :=
  ⟨e.edit.isSound_call, fun _ _ h => h, fun _ _ _ _ _ h => h⟩

/-- A look leaves what stands. -/
theorem Stands.look (h : Stands s e th) (hlook : th.Looks v th') (hv : s.Matches v) : Stands s e th' := by
  obtain ⟨hsound, helsewhere⟩ := hlook.elsewhere h.sound
  refine ⟨hsound, fun a q hgives => ?_, fun hopen t hfind a q hgives => ?_⟩
  · exact h.gives a q ((hlook.gives (hgives.congr hv)).congr hv.symm)
  · obtain ⟨hclosed, hback⟩ := helsewhere hopen
    have hfind' (l : Location) (hl : e.edit.operation.file? = some l) :
        t.world.files.find l = v.world.files.find l := by
      rw [hfind l hl, hv.files]
    exact h.elsewhere hclosed t hfind a q (hback t hfind' a q hgives)

end Thread

/-! ## The race -/

namespace Race

/-- How far two edits have come that began in a session: neither has saved, or one has, or both have, one
after the other; or one has failed. -/
inductive Progress (s : Session) (editors : Bool → Editor) (r : Race) : Prop
  | none (hs : s.Matches r.session) (h : ∀ b, Thread.Stands s (editors b) (r.threads b))
  | one (x : Bool) {m : Session} {a : Answer} (hx : (r.threads x).task = .ended (.ok a))
    (hgives : (editors x).thread.Gives s a m) (hm : m.Matches r.session)
    (h : ∀ a q, (r.threads !x).Gives m a q → (editors !x).thread.Gives m a q)
  | both (x : Bool) {m q : Session} {a a' : Answer} (hx : (r.threads x).task = .ended (.ok a))
    (hx' : (r.threads !x).task = .ended (.ok a')) (hgives : (editors x).thread.Gives s a m)
    (hgives' : (editors !x).thread.Gives m a' q) (hq : q.Matches r.session)
  | failed (b : Bool) (e : Failure) (h : (r.threads b).task = .ended (.error e))

variable {s : Session} {editors : Bool → Editor} {r : Race} {b : Bool}

theorem Progress.start (s : Session) (editors : Bool → Editor) : Progress s editors (start s editors) :=
  .none (.refl s) fun b => .start s (editors b)

/-- What is over is over after the next turn. -/
theorem ended_turn {b' : Bool} {outcome : Except Failure Answer} (h : (r.threads b').task = .ended outcome)
    (b : Bool) : ((r.turn b).threads b').task = .ended outcome := by
  by_cases hb : b' = b
  · subst hb
    rw [threads_turn_self]
    exact (Thread.turn_of_ended h r.session).1
  · rw [threads_turn_of_ne hb]
    exact h

/-- Before the first save, a turn looks at something, or fails, or is that save. -/
theorem Progress.turn_none (hspares : ∀ l, (editors !b).edit.operation.file? = some l → s.Spares l)
    (hfree : ((r.threads b).task.saves && (r.threads !b).task.isOpen) = false)
    (hs : s.Matches r.session) (h : ∀ b, Thread.Stands s (editors b) (r.threads b)) :
    Progress s editors (r.turn b) := by
  have hother : (!b) ≠ b := by simp
  cases hsaves : (r.threads b).task.saves with
  | false =>
    rcases Thread.looks_or_fails (r.threads b) r.session hsaves with ⟨e, he⟩ | ⟨hlook, hsession⟩
    · exact .failed b e (by rwa [threads_turn_self])
    · refine .none (hs.trans ?_) fun b' => ?_
      · rw [Race.turn, hsession]
        exact Thread.matches_enter _ _
      · by_cases hb : b' = b
        · subst hb
          rw [threads_turn_self]
          exact (h b').look hlook hs
        · rw [threads_turn_of_ne hb]
          exact h b'
  | true =>
    rcases Thread.saves_or_fails (r.threads b) r.session hsaves with
      ⟨e, he⟩ | ⟨a, rules, ha, hgives, hfiles⟩
    · exact .failed b e (by rwa [threads_turn_self])
    · have hclosed : (r.threads !b).task.isOpen = false := by rwa [hsaves, Bool.true_and] at hfree
      have hfirst := (h b).gives a _ (hgives.congr hs.symm)
      refine .one b (by rwa [threads_turn_self]) hfirst (.refl _) ?_
      rw [threads_turn_of_ne hother]
      refine (h !b).elsewhere hclosed _ fun l hl => ?_
      rw [hfiles]
      exact hspares l hl _ rules (hs.trans (Thread.matches_enter _ _))

/-- After the first save there is one thread left, which goes on as in the session that was left. -/
theorem Progress.turn_one {x : Bool} {m : Session} {a : Answer} (hx : (r.threads x).task = .ended (.ok a))
    (hgives : (editors x).thread.Gives s a m) (hm : m.Matches r.session)
    (h : ∀ a q, (r.threads !x).Gives m a q → (editors !x).thread.Gives m a q) (b : Bool) :
    Progress s editors (r.turn b) := by
  have hother : (!x) ≠ x := by simp
  by_cases hb : b = x
  · subst hb
    refine .one b (ended_turn hx b) hgives (hm.trans (Thread.turn_of_ended hx r.session).2) ?_
    rw [threads_turn_of_ne hother]
    exact h
  · obtain rfl : b = !x := Bool.eq_not.2 hb
    cases hsaves : (r.threads !x).task.saves with
    | false =>
      rcases Thread.looks_or_fails (r.threads !x) r.session hsaves with ⟨e, he⟩ | ⟨hlook, hsession⟩
      · exact .failed (!x) e (by rwa [threads_turn_self])
      · refine .one x (ended_turn hx _) hgives (hm.trans ?_) fun a q hleft => ?_
        · rw [Race.turn, hsession]
          exact Thread.matches_enter _ _
        · rw [threads_turn_self] at hleft
          exact h a q ((hlook.gives (hleft.congr hm)).congr hm.symm)
    | true =>
      rcases Thread.saves_or_fails (r.threads !x) r.session hsaves with
        ⟨e, he⟩ | ⟨a', rules, ha', hleft, -⟩
      · exact .failed (!x) e (by rwa [threads_turn_self])
      · refine .both x (ended_turn hx _) (by rwa [threads_turn_self]) hgives ?_ (.refl _)
        exact h a' _ (hleft.congr hm.symm)

/-- A turn takes the race on, if no thread saves while the other is open. -/
theorem Progress.turn (h : Progress s editors r)
    (hspares : ∀ b l, (editors b).edit.operation.file? = some l → s.Spares l)
    (hfree : ((r.threads b).task.saves && (r.threads !b).task.isOpen) = false) :
    Progress s editors (r.turn b) := by
  cases h with
  | none hs h => exact turn_none (hspares !b) hfree hs h
  | one x hx hgives hm h => exact turn_one hx hgives hm h b
  | both x hx hx' hgives hgives' hq =>
    refine .both x (ended_turn hx b) (ended_turn hx' b) hgives hgives' (hq.trans ?_)
    by_cases hb : b = x
    · subst hb
      exact (Thread.turn_of_ended hx r.session).2
    · obtain rfl : b = !x := Bool.eq_not.2 hb
      exact (Thread.turn_of_ended hx' r.session).2
  | failed b' e he => exact .failed b' e (ended_turn he b)

/-- So do turns, one after another. -/
theorem Progress.after (h : Progress s editors r)
    (hspares : ∀ b l, (editors b).edit.operation.file? = some l → s.Spares l) {turns : List Bool}
    (hfree : r.isUndisturbed turns = true) : Progress s editors (r.after turns) := by
  induction turns generalizing r with
  | nil => exact h
  | cons b rest ih =>
    rw [isUndisturbed, Bool.and_eq_true, Bool.not_eq_true'] at hfree
    exact ih (h.turn hspares hfree.1) hfree.2

/-- Edits that have both succeeded came to their answers one after the other. -/
theorem Progress.exists_gives (h : Progress s editors r) {answers : Bool → Answer}
    (hends : ∀ b, (r.threads b).task = .ended (.ok (answers b))) :
    ∃ x m q, (editors x).thread.Gives s (answers x) m ∧ (editors !x).thread.Gives m (answers !x) q ∧
      q.Matches r.session := by
  cases h with
  | none hs h =>
    have hgives (b : Bool) : (editors b).thread.Gives s (answers b) s :=
      (h b).gives _ _ (Thread.gives_of_ended (hends b) s)
    exact ⟨true, s, s, hgives true, hgives false, hs⟩
  | one x hx hgives hm h =>
    cases (hends x).symm.trans hx
    exact ⟨x, _, _, hgives, h _ _ (Thread.gives_of_ended (hends !x) _), hm⟩
  | both x hx hx' hgives hgives' hq =>
    cases (hends x).symm.trans hx
    cases (hends !x).symm.trans hx'
    exact ⟨x, _, _, hgives, hgives', hq⟩
  | failed b e he => exact nomatch (hends b).symm.trans he

end Race

namespace Session

open Race

variable {s : Session} {editors : Bool → Editor} {turns : List Bool} {answers : Bool → Answer}

/-- Sessions that match give the same rules at any time. -/
theorem Matches.run_rules {t : Session} (h : s.Matches t) (st : Step) :
    ((t.begin st).run Service.rules).1 = ((s.begin st).run Service.rules).1 := by
  have hstore : (t.begin st).store = (s.begin st).store := h.store
  rw [run_rules_fst, run_rules_fst, hstore]
  exact (s.begin st).store.reads_rules.outcome
    ⟨rfl, congrArg Files.entries h.files, congrArg Files.removed h.files⟩

/-- A session that two edits have left, with the answers that they gave, is as if one had been done after the
other. -/
structure IsSerial (s : Session) (editors : Bool → Editor) (answers : Bool → Answer) (left : Session)
    (x : Bool) : Prop where
  /-- One after the other, they give the same answers. -/
  outcomes : (s.trace [(editors x).step, (editors !x).step]).map Observation.outcome =
    [.ok (answers x), .ok (answers !x)]
  /-- They leave the same store and the same files. -/
  same : (s.after [(editors x).step, (editors !x).step]).Matches left
  /-- The store gives the same rules at any time. -/
  rules : ∀ t, ((left.begin t).run Service.rules).1 =
    (((s.after [(editors x).step, (editors !x).step]).begin t).run Service.rules).1
  /-- In a store with order, in which rules are made with new identifiers, a rule whose creation was answered
  is there, unless the other edit removes it or brings in other rules for all. -/
  created : ∀ since, HasOrder since s.store s.world → s.AllFresh [(editors x).step, (editors !x).step] →
    ∀ b fields r, (editors b).edit = .create fields → answers b = .rule r →
      (editors !b).edit.Keeps r.id →
        ∃ rules, (left.run Service.rules).1 = .ok rules ∧ r.id ∈ rules.map Rule.id

/-- **No update is lost unless a save disturbs an edit.**  Two edits begin on one store, their turns come in
any order, and both succeed.  If neither saves while the other has read the rules that its save rests on and
has not saved yet, then it is as if they had been done one after the other, in one order or the other.  A file
that is imported must not be one that the store writes. -/
theorem race_serial (hspares : ∀ b l, (editors b).edit.operation.file? = some l → s.Spares l)
    (hends : ∀ b, (((start s editors).after turns).threads b).task = .ended (.ok (answers b)))
    (hfree : (start s editors).isUndisturbed turns = true) :
    ∃ x, s.IsSerial editors answers ((start s editors).after turns).session x := by
  obtain ⟨x, m, q, hx, hx', hq⟩ := ((Progress.start s editors).after hspares hfree).exists_gives hends
  obtain ⟨houtcome, hm⟩ := Editor.step_of_gives hx
  obtain ⟨houtcome', hlast⟩ := Editor.step_of_gives (hx'.congr hm)
  have hafter := hlast.symm.trans hq
  refine ⟨x, ?_, hafter, hafter.run_rules, ?_⟩
  · simp only [trace, List.map_cons, List.map_nil, houtcome, houtcome']
  · intro since hs hfresh b fields r hcreate hanswer hkeeps
    have hfirst : HasOrder since m.store m.world := HasOrder.of_matches (hs.step hfresh.1) hm.symm
    have hend := HasOrder.of_matches (hs.after hfresh) hafter
    refine hend.exists_rules (HasId.of_matches ?_ hq)
    by_cases hb : b = x
    · subst hb
      rw [hanswer] at hx
      exact hasId_of_keeps hfirst (hasId_of_create hs hcreate hx) hkeeps hx'
    · obtain rfl : b = !x := Bool.eq_not.2 hb
      rw [hanswer] at hx'
      exact hasId_of_create hfirst hcreate hx'

/-! ## A rule is made while others are brought in -/

/-- The fields of a rule with a name. -/
def namedFields (name : String) : Fields :=
  [("name", .text name), ("label", .text name), ("conditions", .object [("key", .text "Price"),
    ("operator", .text "="), ("value", .text "2")])]

/-- The name of a file of rules. -/
def moreRules : Location := ⟨"", ["more.json"]⟩

/-- A world with a file of rules in which there is one. -/
def fileWorld : World :=
  let items : Value := .array [.object (("id", .text "rule-1") :: namedFields "Even")]
  { bareWorld with files := (Files.empty.write moreRules (.document items)).toOption.getD .empty }

/-- A rule is to be made, and the rules of a file are to be merged in. -/
def creationAndImport : Bool → Editor
  | true => ⟨.epoch, ⟨1, 0⟩, .create (namedFields "Cheap")⟩
  | false => ⟨.epoch, ⟨2, 0⟩, .load moreRules false⟩

/-- The file is loaded before the rule is saved, but the rules are read after that. -/
def overlapping : List Bool := [true, false, true, true, true, false, false, false]

/-- A task is over and has succeeded. -/
def hasSucceeded : Task → Bool
  | .ended (.ok _) => true
  | _ => false

theorem exists_of_hasSucceeded {t : Task} (h : hasSucceeded t = true) : ∃ a, t = .ended (.ok a) := by
  rw [hasSucceeded.eq_def] at h
  split at h
  · exact ⟨_, rfl⟩
  · cases h

theorem race_serial_creationAndImport :
    ∃ s answers x, openAt? .unbounded false (.folder ⟨"", ["data"]⟩) fileWorld = some s ∧
      (∀ b l, (creationAndImport b).edit.operation.file? = some l → s.Spares l) ∧
      (∀ b, (((start s creationAndImport).after overlapping).threads b).task = .ended (.ok (answers b))) ∧
      (start s creationAndImport).isUndisturbed overlapping = true ∧
      s.IsSerial creationAndImport answers ((start s creationAndImport).after overlapping).session x := by
  have hruns : (openAt? .unbounded false (.folder ⟨"", ["data"]⟩) fileWorld).any (fun s =>
      (s.store.isNew fileWorld.files.next s.world.files &&
        (s.world.files.numberAt? moreRules).all (· < fileWorld.files.next)) &&
      ((start s creationAndImport).isUndisturbed overlapping &&
        [true, false].all fun b =>
          hasSucceeded (((start s creationAndImport).after overlapping).threads b).task)) = true := by
    decide +kernel
  obtain ⟨s, hs, hrun⟩ := (Option.any_eq_true _ _).1 hruns
  simp only [Bool.and_eq_true, List.all_cons, List.all_nil, and_true] at hrun
  obtain ⟨⟨hnew, hold⟩, hfree, hfirst, hsecond⟩ := hrun
  have hspares (b : Bool) (l : Location) (hl : (creationAndImport b).edit.operation.file? = some l) :
      s.Spares l := by
    cases b with
    | true => cases hl
    | false =>
      cases hl
      refine (HasOrder.of_openAt hs hnew).spares fun n c hfind => ?_
      rw [Files.numberAt?, hfind] at hold
      exact of_decide_eq_true hold
  have hends (b : Bool) : ∃ a,
      (((start s creationAndImport).after overlapping).threads b).task = .ended (.ok a) := by
    cases b with
    | true => exact exists_of_hasSucceeded hfirst
    | false => exact exists_of_hasSucceeded hsecond
  choose answers hanswers using hends
  obtain ⟨x, hx⟩ := race_serial hspares hanswers hfree
  exact ⟨s, answers, x, hs, hspares, hanswers, hfree, hx⟩

/-! ## A rule that is lost -/

/-- Two rules are to be made. -/
def twoCreations : Bool → Editor
  | true => ⟨.epoch, ⟨1, 0⟩, .create (namedFields "Cheap")⟩
  | false => ⟨.epoch, ⟨2, 0⟩, .create (namedFields "Dear")⟩

/-- Both edits read the rules before either saves. -/
def crossing : List Bool := [true, false, true, false, true, false, true, false]

/-- The identifier of the rule that a task has answered. -/
def answeredId? : Task → Option String
  | .ended (.ok (.rule r)) => some r.id
  | _ => none

theorem exists_of_answeredId? {t : Task} {id : String} (h : answeredId? t = some id) :
    ∃ r : Rule, t = .ended (.ok (.rule r)) ∧ r.id = id := by
  rw [answeredId?.eq_def] at h
  split at h
  · cases h
    exact ⟨_, rfl, rfl⟩
  · cases h

/-- The identifiers of the rules that a session gives. -/
def ruleIds? (s : Session) : Option (List String) := (s.run Service.rules).1.toOption.map (·.map Rule.id)

/-- What two creations leave that cross. -/
def crossed : Race := (start (inMemory false bareWorld) twoCreations).after crossing

/-- Both rules are made, and each call is answered with its rule.  But the rule that was saved first is not
there, and neither order of the two calls, done one after the other, leaves these rules. -/
theorem race_loses_creation :
    ∃ lost kept : Rule, (crossed.threads true).task = .ended (.ok (.rule lost)) ∧
      (crossed.threads false).task = .ended (.ok (.rule kept)) ∧
      (∃ rules, (crossed.session.run Service.rules).1 = .ok rules ∧ lost.id ∉ rules.map Rule.id) ∧
      ∀ x, (((inMemory false bareWorld).after [(twoCreations x).step, (twoCreations !x).step]).run
        Service.rules).1 ≠ (crossed.session.run Service.rules).1 := by
  have hlost : answeredId? (crossed.threads true).task = some "rule-000001000000" := by decide +kernel
  have hkept : answeredId? (crossed.threads false).task = some "rule-000002000000" := by decide +kernel
  have hids : ruleIds? crossed.session = some ["rule-000002000000"] := by decide +kernel
  have hserial : ∀ x, ruleIds? ((inMemory false bareWorld).after
      [(twoCreations x).step, (twoCreations !x).step]) ≠ some ["rule-000002000000"] := by
    decide +kernel
  obtain ⟨lost, hlost, hid⟩ := exists_of_answeredId? hlost
  obtain ⟨kept, hkept, -⟩ := exists_of_answeredId? hkept
  refine ⟨lost, kept, hlost, hkept, ?_, fun x heq => ?_⟩
  · rw [ruleIds?, Option.map_eq_some_iff] at hids
    obtain ⟨rules, hrules, hmap⟩ := hids
    refine ⟨rules, except_toOption_eq_some.1 hrules, ?_⟩
    rw [hmap, hid]
    decide
  · refine hserial x ?_
    rw [ruleIds?, heq]
    exact hids

end Session

end RuleLabels
