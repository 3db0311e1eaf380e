import Mathlib.Data.List.Forall2
import Mathlib.Tactic.Common
import RuleLabels.Tree.Write

/-!
# The writer fills its sheets

`Tree.toValue` takes up the group met last first, and a group is entered in the one around it before its
own members are written.  Here the loop is tied to `written`, which writes a tree by recursion:

* a `Plan` gives each sheet the trees that are to stand on it, and `Desk.Follows` is the invariant: what
  stands on a sheet and what is still to be written there are together what the plan says;
* `Desk.follows_enter` is one step, and `Desk.follows_fill` the whole loop;
* `assemble_eq` puts full sheets together;
* `toValue_recursive` has the conclusion.
-/

namespace RuleLabels.Tree

/-! ## Writing by recursion -/

mutual

/-- Writes a tree by recursion. -/
def written : Tree → Value
  | leaf c => c.toValue
  | group operator children => groupValue operator (writtenEach children)

/-- Writes trees one by one. -/
def writtenEach : List Tree → List Value
  | [] => []
  | t :: rest => t.written :: writtenEach rest

end

theorem writtenEach_eq_map (ts : List Tree) : writtenEach ts = ts.map written := by
  induction ts with
  | nil => rfl
  | cons t rest ih => rw [writtenEach, ih, List.map_cons]

theorem length_writtenEach (ts : List Tree) : (writtenEach ts).length = ts.length := by
  rw [writtenEach_eq_map, List.length_map]

/-! ## The plan -/

/-- The trees that are to stand on each sheet. -/
abbrev Plan := List (List Tree)

/-- An entry on a sheet stands for a tree: the members of a group are on a later sheet. -/
inductive Reads (plan : Plan) (sheet : Nat) : Entry → Tree → Prop where
  | condition (c : Condition) : Reads plan sheet (.condition c.toValue) (leaf c)
  | group {operator : String} {later : Nat} {members : List Tree} : sheet < later →
    plan[later]? = some members → Reads plan sheet (.group operator later) (group operator members)

/-- The plan for more sheets says the same of those before. -/
theorem Reads.append {plan : Plan} {sheet : Nat} {e : Entry} {t : Tree} (h : Reads plan sheet e t)
    (more : Plan) : Reads (plan ++ more) sheet e t := by
  cases h with
  | condition c => exact .condition c
  | group hlater hplan =>
    obtain ⟨hlt, -⟩ := List.getElem?_eq_some_iff.1 hplan
    exact .group hlater (by rw [List.getElem?_append_left hlt, hplan])

/-! ## The loop -/

namespace Desk

/-- The trees that are still to be written on a sheet. -/
def left : List (List Tree × Nat) → Nat → List Tree
  | [], _ => []
  | (members, sheet) :: rest, a => (if sheet = a then members else []) ++ left rest a

theorem left_eq_nil {pending : List (List Tree × Nat)} {a : Nat} (h : ∀ p ∈ pending, p.2 < a) :
    left pending a = [] := by
  induction pending with
  | nil => rfl
  | cons p rest ih =>
    rw [left, if_neg (Nat.ne_of_lt (h p List.mem_cons_self)), ih fun q hq => h q (List.mem_cons_of_mem p hq),
      List.append_nil]

/-- The desk is on the way to what the plan says. -/
structure Follows (plan : Plan) (d : Desk) : Prop where
  size : plan.length = d.sheets.size
  isBelow : ∀ p ∈ d.pending, p.2 < d.sheets.size
  /-- The entries of a sheet stand for the first of its trees, and the others are still to be written. -/
  sheet : ∀ (a : Nat) (entries : Array Entry), d.sheets[a]? = some entries → ∃ done,
    List.Forall₂ (Reads plan a) entries.toList done ∧ plan[a]? = some (done ++ left d.pending a)

/-- A group whose members are all written need not be taken up. -/
theorem Follows.drop {plan : Plan} {sheets : Array (Array Entry)} {pending : List (List Tree × Nat)}
    {sheet : Nat} (h : Follows plan ⟨sheets, ([], sheet) :: pending⟩) : Follows plan ⟨sheets, pending⟩ where
  size := h.size
  isBelow p hp := h.isBelow p (List.mem_cons_of_mem _ hp)
  sheet a entries ha := by
    obtain ⟨done, hdone, hplan⟩ := h.sheet a entries ha
    rw [left, ite_self, List.nil_append] at hplan
    exact ⟨done, hdone, hplan⟩

/-- A sheet on which an entry for the next tree is added still bears what the plan says. -/
theorem Follows.sheet_push {plan more : Plan} {d : Desk} {sheet : Nat} {t : Tree} {ts : List Tree} {e : Entry}
    (h : Follows plan ⟨d.sheets, (t :: ts, sheet) :: d.pending⟩) (he : Reads (plan ++ more) sheet e t)
    {a : Nat} {entries : Array Entry} (ha : (d.sheets.modify sheet (·.push e))[a]? = some entries) :
    ∃ done, List.Forall₂ (Reads (plan ++ more) a) entries.toList done ∧
      (plan ++ more)[a]? = some (done ++ left ((ts, sheet) :: d.pending) a) := by
  have hkept : ∀ {old : Array Entry}, d.sheets[a]? = some old → ∃ done,
      List.Forall₂ (Reads (plan ++ more) a) old.toList done ∧
        (plan ++ more)[a]? = some (done ++ left ((t :: ts, sheet) :: d.pending) a) := by
    intro old hold
    obtain ⟨done, hdone, hplan⟩ := h.sheet a old hold
    obtain ⟨hlt, -⟩ := List.getElem?_eq_some_iff.1 hplan
    exact ⟨done, hdone.imp fun _ _ hr => hr.append more, by rw [List.getElem?_append_left hlt, hplan]⟩
  rw [Array.getElem?_modify] at ha
  by_cases hs : sheet = a
  · subst hs
    rw [if_pos rfl] at ha
    obtain ⟨old, hold, rfl⟩ := Option.map_eq_some_iff.1 ha
    obtain ⟨done, hdone, hplan⟩ := hkept hold
    refine ⟨done ++ [t], ?_, ?_⟩
    · rw [Array.toList_push]
      exact List.rel_append hdone (.cons he .nil)
    · rw [hplan, left, left, if_pos rfl, if_pos rfl, List.append_assoc]
      rfl
  · rw [if_neg hs] at ha
    obtain ⟨done, hdone, hplan⟩ := hkept ha
    refine ⟨done, hdone, ?_⟩
    rw [hplan, left, left, if_neg hs, if_neg hs]

/-- To enter a tree, the next one of a group that is being written, keeps to the plan, which is extended if
the tree is a group itself. -/
theorem follows_enter {plan : Plan} {d : Desk} {sheet : Nat} {t : Tree} {ts : List Tree}
    (h : Follows plan ⟨d.sheets, (t :: ts, sheet) :: d.pending⟩) :
    ∃ more, Follows (plan ++ more) ⟨(enter sheet d t).sheets, (ts, sheet) :: (enter sheet d t).pending⟩ := by
  have hsheet : sheet < d.sheets.size := h.isBelow _ List.mem_cons_self
  have hpending : ∀ p ∈ d.pending, p.2 < d.sheets.size := fun p hp => h.isBelow p (List.mem_cons_of_mem _ hp)
  have hlength : plan.length = d.sheets.size := h.size
  cases t with
  | leaf c =>
    refine ⟨[], ?_, ?_, fun a entries => h.sheet_push (.condition c)⟩
    · rw [List.append_nil, hlength, enter, Array.size_modify]
    · simp only [enter, Array.size_modify, List.forall_mem_cons]
      exact ⟨hsheet, hpending⟩
  | group operator members =>
    refine ⟨[members], ?_, ?_, ?_⟩
    · rw [List.length_append, hlength, enter, Array.size_push, Array.size_modify, List.length_singleton]
    · simp only [enter, Array.size_push, Array.size_modify, List.forall_mem_cons]
      exact ⟨Nat.lt_succ_of_lt hsheet, Nat.lt_succ_self _, fun p hp => Nat.lt_succ_of_lt (hpending p hp)⟩
    · have hnew : (plan ++ [members])[d.sheets.size]? = some members := by
        rw [← hlength, List.getElem?_concat_length]
      intro a entries ha
      simp only [enter, Array.getElem?_push, Array.size_modify] at ha
      split at ha
      · -- the new sheet, on which nothing stands
        rename_i heq
        obtain rfl : #[] = entries := Option.some.inj ha
        refine ⟨[], .nil, ?_⟩
        rw [heq, hnew, enter, left, left, if_neg (Nat.ne_of_lt hsheet), if_pos rfl, left_eq_nil hpending,
          List.append_nil]
        rfl
      · rename_i hne
        obtain ⟨done, hdone, hplan⟩ := h.sheet_push (.group hsheet hnew) ha
        refine ⟨done, hdone, ?_⟩
        rw [hplan, enter, left, left, left, if_neg (Ne.symm hne), List.nil_append]

/-- To enter the members of a group keeps to the plan. -/
theorem follows_enterAll {plan : Plan} {d : Desk} {sheet : Nat} {ts : List Tree}
    (h : Follows plan ⟨d.sheets, (ts, sheet) :: d.pending⟩) :
    ∃ more, Follows (plan ++ more) (enterAll sheet ts d) := by
  induction ts generalizing plan d with
  | nil => exact ⟨[], by rw [List.append_nil]; exact h.drop⟩
  | cons t ts ih =>
    obtain ⟨more, hmore⟩ := follows_enter h
    obtain ⟨others, hothers⟩ := ih hmore
    exact ⟨more ++ others, by rwa [← List.append_assoc]⟩

/-- When the loop ends, the sheets bear what the plan says. -/
theorem follows_fill {plan : Plan} {d : Desk} (h : Follows plan d) :
    ∃ more, Follows (plan ++ more) ⟨d.fill, []⟩ := by
  fun_induction fill d generalizing plan with
  | case1 sheets => exact ⟨[], by rwa [List.append_nil]⟩
  | case2 sheets members sheet rest ih =>
    obtain ⟨more, hmore⟩ := follows_enterAll (d := ⟨sheets, rest⟩) h
    obtain ⟨others, hothers⟩ := ih hmore
    exact ⟨more ++ others, by rwa [← List.append_assoc]⟩

end Desk

/-! ## Putting the sheets together -/

/-- An entry has the value of its tree when the sheets after its own have been put together. -/
theorem Reads.toValue_eq {plan : Plan} {a : Nat} {e : Entry} {t : Tree} (h : Reads plan a e t)
    {later : Array (List Value)} (hlater : later.toList = ((plan.drop (a + 1)).map writtenEach).reverse) :
    e.toValue plan.length later = t.written := by
  cases h with
  | condition c => rfl
  | @group operator b members hb hplan =>
    obtain ⟨hlt, -⟩ := List.getElem?_eq_some_iff.1 hplan
    have hmembers : later[plan.length - 1 - b]? = some (writtenEach members) := by
      have hlength : ((plan.drop (a + 1)).map writtenEach).length = plan.length - (a + 1) := by
        rw [List.length_map, List.length_drop]
      rw [← Array.getElem?_toList, hlater, List.getElem?_reverse (by omega), hlength, List.getElem?_map,
        List.getElem?_drop, show a + 1 + (plan.length - (a + 1) - 1 - (plan.length - 1 - b)) = b by omega,
        hplan, Option.map_some]
    rw [Entry.toValue, written, Array.getD_eq_getD_getElem?, hmembers, Option.getD_some]

/-- The entries of a sheet have the values of its trees. -/
theorem map_toValue_eq {plan : Plan} {a : Nat} {entries : List Entry} {ts : List Tree}
    (h : List.Forall₂ (Reads plan a) entries ts) {later : Array (List Value)}
    (hlater : later.toList = ((plan.drop (a + 1)).map writtenEach).reverse) :
    entries.map (Entry.toValue plan.length later) = writtenEach ts := by
  induction h with
  | nil => rfl
  | cons hr _ ih => rw [List.map_cons, hr.toValue_eq hlater, ih, writtenEach]

/-- Sheets from one number on are put together to the members of the plan. -/
theorem toList_assemble {plan : Plan} {sheets : List (Array Entry)} {a : Nat}
    (hlength : a + sheets.length = plan.length)
    (h : ∀ (i : Nat) (entries : Array Entry), sheets[i]? = some entries →
      ∃ ts, List.Forall₂ (Reads plan (a + i)) entries.toList ts ∧ plan[a + i]? = some ts) :
    (assemble plan.length sheets).toList = ((plan.drop a).map writtenEach).reverse := by
  induction sheets generalizing a with
  | nil =>
    rw [List.drop_eq_nil_of_le (by rw [← hlength, List.length_nil]; exact Nat.le_refl a)]
    rfl
  | cons entries rest ih =>
    obtain ⟨ts, hts, hplan⟩ := h 0 entries rfl
    rw [Nat.add_zero] at hts hplan
    obtain ⟨hlt, rfl⟩ := List.getElem?_eq_some_iff.1 hplan
    rw [List.length_cons, ← Nat.add_assoc, Nat.add_right_comm] at hlength
    have hlater := ih hlength fun i entries' hi => by
      have := h (i + 1) entries' (by rwa [List.getElem?_cons_succ])
      rwa [← Nat.add_assoc, Nat.add_right_comm] at this
    rw [assemble, List.foldr_cons, ← assemble, Array.toList_push, map_toValue_eq hts hlater, hlater,
      List.drop_eq_getElem_cons hlt, List.map_cons, List.reverse_cons]

/-- Full sheets are put together to the members of the plan. -/
theorem toList_assemble_of_follows {plan : Plan} {sheets : Array (Array Entry)}
    (h : Desk.Follows plan ⟨sheets, []⟩) :
    (assemble sheets.size sheets.toList).toList = (plan.map writtenEach).reverse := by
  have hsize : plan.length = sheets.size := h.size
  rw [← hsize, toList_assemble (a := 0) (by rw [Nat.zero_add, hsize]; rfl), List.drop_zero]
  intro i entries hi
  rw [Array.getElem?_toList] at hi
  obtain ⟨done, hdone, hplan⟩ := h.sheet i entries hi
  rw [Nat.zero_add]
  exact ⟨done, hdone, by rw [hplan, Desk.left, List.append_nil]⟩

/-! ## The written form -/

/-- The first sheet is for the members of the whole tree. -/
theorem Desk.follows_start (members : List Tree) : Follows [members] ⟨#[#[]], [(members, 0)]⟩ where
  size := rfl
  isBelow p hp := by
    rw [List.mem_singleton.1 hp]
    exact Nat.zero_lt_one
  sheet a entries ha := by
    cases a with
    | zero =>
      obtain rfl : #[] = entries := Option.some.inj ha
      exact ⟨[], .nil, by rw [left, left, if_pos rfl, List.append_nil]; rfl⟩
    | succ a => exact nomatch ha

/-- The loop writes what the recursion writes. -/
theorem toValue_eq_written (t : Tree) : t.toValue = t.written := by
  cases t with
  | leaf c => rfl
  | group operator members =>
    obtain ⟨more, hmore⟩ := Desk.follows_fill (Desk.follows_start members)
    rw [toValue, written, ← Array.getLast?_toList, toList_assemble_of_follows hmore, List.getLast?_reverse]
    rfl

/-- The members of a group stand in their order under their own group. -/
theorem toValue_group (operator : String) (members : List Tree) :
    (group operator members).toValue = groupValue operator (members.map toValue) := by
  rw [toValue_eq_written, written, writtenEach_eq_map, funext toValue_eq_written]

theorem eq_of_toValue_eq {c d : Condition} (h : c.toValue = d.toValue) : c = d := by
  simp only [Condition.toValue, Value.object.injEq, List.cons.injEq, Prod.mk.injEq, Value.text.injEq,
    true_and, and_true] at h
  obtain ⟨hkey, hoperator, hvalue⟩ := h
  cases c
  cases d
  subst hkey hoperator hvalue
  rfl

mutual

theorem eq_of_written_eq : ∀ {t u : Tree}, t.written = u.written → t = u
  | leaf c, leaf d, h => congrArg leaf (eq_of_toValue_eq h)
  | leaf c, group operator members, h => by
    simp [written, Condition.toValue, groupValue] at h
  | group operator members, leaf c, h => by
    simp [written, Condition.toValue, groupValue] at h
  | group o ts, group p us, h => by
    simp only [written, groupValue, Value.object.injEq, List.cons.injEq, Prod.mk.injEq, Value.text.injEq,
      Value.array.injEq, true_and, and_true] at h
    rw [h.1, eq_of_writtenEach_eq h.2]

theorem eq_of_writtenEach_eq : ∀ {ts us : List Tree}, writtenEach ts = writtenEach us → ts = us
  | [], [], _ => rfl
  | t :: ts, u :: us, h => by
    rw [writtenEach, writtenEach, List.cons.injEq] at h
    rw [eq_of_written_eq h.1, eq_of_writtenEach_eq h.2]

end

/-- **The loop over the groups is the recursion.**  For every tree, whatever its operators and values are
and even if groups in it are empty, the loop ends with the recursive form: a condition is written by itself,
a group with its operator and its written members in their order.  Nothing is lost, since different trees
are written differently. -/
theorem toValue_recursive :
    (∀ t : Tree, t.toValue = t.written) ∧
      (∀ c : Condition, (leaf c).toValue = c.toValue) ∧
      (∀ (operator : String) (members : List Tree),
        (group operator members).toValue = groupValue operator (members.map toValue)) ∧
      ∀ t u : Tree, t.toValue = u.toValue → t = u :=
  ⟨toValue_eq_written, fun _ => rfl, toValue_group, fun t u h =>
    eq_of_written_eq (by rwa [toValue_eq_written, toValue_eq_written] at h)⟩

example (c d : Condition) :
    (group "any" [group "AND" [leaf c], leaf d, group "OR" []]).toValue =
      groupValue "any" [groupValue "AND" [c.toValue], d.toValue, groupValue "OR" []] := by
  cbv

end RuleLabels.Tree
