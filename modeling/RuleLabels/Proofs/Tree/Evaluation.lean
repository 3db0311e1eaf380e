import Mathlib.Tactic.Common
import RuleLabels.Rule.AnyPayload

/-!
# The evaluation loop follows the recursion

`Tree.run` keeps the open groups on a stack and one outcome in a cell.  Here it is tied to `Tree.holdsBy`,
the recursion that says what it means that a tree holds:

* `stackOutcome` is the invariant: what a stack with a cell still has to give, said by recursion.
  `run_eq_stackOutcome` shows that no step of the loop changes it;
* `Reaches` says which conditions the recursion asks, and `holdsBy_eq_error_iff` that a fault of the whole
  is the fault of a condition that is asked;
* `evaluate_eq_holds` puts the two together for payloads.
-/

namespace RuleLabels.Tree

variable {ε : Type} {ask : Condition → Except ε Bool}

/-! ## The invariant of the loop -/

/-- The outcome of an open group, where `last` is the outcome of its child that just ended, if one did. -/
def frameOutcome (ask : Condition → Except ε Bool) (f : Frame) (last : Option Bool) : Except ε Bool :=
  match Junction.ofOperator? f.operator with
  | none => .ok false
  | some j => if last.any j.settles then .ok (last.getD false) else joinedBy ask j f.pending

/-- The outcome of the outermost of some open groups: that of each group is the `last` of the one around
it. -/
def stackOutcome (ask : Condition → Except ε Bool) : List Frame → Option Bool → Except ε Bool
  | [], last => .ok (last.getD false)
  | f :: below, last =>
    match frameOutcome ask f last with
    | .error e => .error e
    | .ok b => stackOutcome ask below (some b)

/-- A new group has the outcome of its tree. -/
theorem frameOutcome_none (operator : String) (children : List Tree) :
    frameOutcome ask ⟨operator, children⟩ none = holdsBy ask (group operator children) := by
  rw [frameOutcome, holdsBy]
  rfl

/-- The first child gives its outcome to its group, which then goes on with the others. -/
theorem frameOutcome_cons {operator : String} {j : Junction} {t : Tree} {rest : List Tree}
    {last : Option Bool} (hj : Junction.ofOperator? operator = some j)
    (hl : ¬ last.any j.settles = true) :
    frameOutcome ask ⟨operator, t :: rest⟩ last =
      match holdsBy ask t with
      | .error e => .error e
      | .ok b => frameOutcome ask ⟨operator, rest⟩ (some b) := by
  cases h : holdsBy ask t with
  | error e => simp only [frameOutcome, hj, if_neg hl, joinedBy, h]
  | ok b => simp only [frameOutcome, hj, if_neg hl, joinedBy, h, Option.any_some, Option.getD_some]

/-- No step of the loop changes what the stack has to give. -/
theorem run_eq_stackOutcome (stack : List Frame) (last : Option Bool) :
    run ask stack last = stackOutcome ask stack last := by
  fun_induction run ask stack last with
  | case1 last => rfl
  | case2 operator pending below last hj ih =>
    -- a group whose operator names no junction gives false and looks at no child
    simp only [ih, stackOutcome, frameOutcome, hj]
  | case3 operator pending below last j hj hl ih =>
    -- the last child has decided the group, so the cell is passed on
    obtain ⟨b, rfl⟩ : ∃ b, last = some b := by
      cases last with
      | none => exact absurd hl (by simp)
      | some b => exact ⟨b, rfl⟩
    simp only [ih, stackOutcome, frameOutcome, hj, if_pos hl, Option.getD_some]
  | case4 operator below last j hj hl ih =>
    simp only [ih, stackOutcome, frameOutcome, hj, if_neg hl, joinedBy]
  | case5 operator below last j hj hl c rest e he =>
    rw [stackOutcome, frameOutcome_cons hj hl, holdsBy, he]
  | case6 operator below last j hj hl c rest b hb ih =>
    rw [ih, stackOutcome, stackOutcome, frameOutcome_cons hj hl, holdsBy, hb]
  | case7 operator below last j hj hl inner children rest ih =>
    rw [ih, stackOutcome, frameOutcome_none, stackOutcome, frameOutcome_cons hj hl]
    cases holdsBy ask (group inner children) with
    | error e => rfl
    | ok b => simp only [stackOutcome]

/-- The loop and the recursion give one outcome, whatever conditions mean. -/
theorem evaluateBy_eq_holdsBy (t : Tree) : evaluateBy ask t = holdsBy ask t := by
  cases t with
  | leaf c => rw [evaluateBy, holdsBy]
  | group operator children =>
    rw [evaluateBy, run_eq_stackOutcome, stackOutcome, frameOutcome_none]
    cases holdsBy ask (group operator children) with
    | error e => rfl
    | ok b => rfl

/-! ## The conditions that are asked -/

mutual

/-- The recursion over a tree asks a condition. -/
inductive Reaches (ask : Condition → Except ε Bool) : Tree → Condition → Prop where
  /-- A lone condition is asked. -/
  | leaf (c : Condition) : Reaches ask (leaf c) c
  /-- A group whose operator names a junction asks what its members ask. -/
  | group {operator : String} {j : Junction} {children : List Tree} {c : Condition} :
    Junction.ofOperator? operator = some j → ReachesIn ask j children c →
      Reaches ask (group operator children) c

/-- The recursion over the members of a group, of which those before have not decided it, asks a
condition. -/
inductive ReachesIn (ask : Condition → Except ε Bool) : Junction → List Tree → Condition → Prop where
  /-- The first member is looked at. -/
  | head {j : Junction} {t : Tree} {rest : List Tree} {c : Condition} :
    Reaches ask t c → ReachesIn ask j (t :: rest) c
  /-- The others are looked at if the first has an outcome that decides nothing. -/
  | tail {j : Junction} {t : Tree} {rest : List Tree} {c : Condition} {b : Bool} :
    holdsBy ask t = .ok b → j.settles b = false → ReachesIn ask j rest c →
      ReachesIn ask j (t :: rest) c

end

mutual

theorem reaches_of_holdsBy_error :
    ∀ {t : Tree} {e : ε}, holdsBy ask t = .error e → ∃ c, Reaches ask t c ∧ ask c = .error e
  | leaf c, e, h => ⟨c, .leaf c, by rwa [holdsBy] at h⟩
  | group operator children, e, h => by
    rw [holdsBy] at h
    split at h
    · exact absurd h (by simp)
    · rename_i j hj
      obtain ⟨c, hc, he⟩ := reachesIn_of_joinedBy_error h
      exact ⟨c, .group hj hc, he⟩

theorem reachesIn_of_joinedBy_error :
    ∀ {j : Junction} {ts : List Tree} {e : ε},
      joinedBy ask j ts = .error e → ∃ c, ReachesIn ask j ts c ∧ ask c = .error e
  | j, [], e, h => by rw [joinedBy] at h; exact absurd h (by simp)
  | j, t :: rest, e, h => by
    rw [joinedBy] at h
    cases ht : holdsBy ask t with
    | error e' =>
      rw [ht] at h
      cases h
      obtain ⟨c, hc, he⟩ := reaches_of_holdsBy_error ht
      exact ⟨c, .head hc, he⟩
    | ok b =>
      rw [ht] at h
      by_cases hb : j.settles b = true
      · exact absurd h (by simp [hb])
      · simp only [if_neg hb] at h
        obtain ⟨c, hc, he⟩ := reachesIn_of_joinedBy_error h
        exact ⟨c, .tail ht (Bool.not_eq_true _ ▸ hb) hc, he⟩

end

mutual

theorem holdsBy_error_of_reaches :
    ∀ {t : Tree} {c : Condition} {e : ε}, Reaches ask t c → ask c = .error e →
      holdsBy ask t = .error e
  | _, _, _, .leaf c, he => by rw [holdsBy, he]
  | _, _, _, .group hj hc, he => by rw [holdsBy, hj]; exact joinedBy_error_of_reachesIn hc he

theorem joinedBy_error_of_reachesIn :
    ∀ {j : Junction} {ts : List Tree} {c : Condition} {e : ε}, ReachesIn ask j ts c →
      ask c = .error e → joinedBy ask j ts = .error e
  | _, _, _, _, .head hc, he => by rw [joinedBy, holdsBy_error_of_reaches hc he]
  | _, _, _, _, .tail ht hb hc, he => by
    rw [joinedBy, ht]
    simp only [hb]
    exact joinedBy_error_of_reachesIn hc he

end

/-- A tree has the fault of a condition that is asked, and no other. -/
theorem holdsBy_eq_error_iff {t : Tree} {e : ε} :
    holdsBy ask t = .error e ↔ ∃ c, Reaches ask t c ∧ ask c = .error e :=
  ⟨reaches_of_holdsBy_error, fun ⟨_, hc, he⟩ => holdsBy_error_of_reaches hc he⟩

/-! ## Payloads -/

/-- **The loop is the recursion.**  For every tree and payload they have one outcome, and the loop ends in
a fault exactly where the recursion asks a condition that has it.  The payload may be an object or any other
value, and the stack may hold any number of calls. -/
theorem evaluate_eq_holds (t : Tree) :
    (∀ (levels : Nat) (payload : Fields), t.evaluate levels payload = t.holds levels payload ∧
      ∀ fault, t.evaluate levels payload = .error fault ↔
        ∃ c, Reaches (·.holds levels payload) t c ∧ c.holds levels payload = .error fault) ∧
    ∀ (levels : Nat) (payload : Value),
      t.evaluateFor levels payload = t.holdsBy (·.holdsFor levels payload) ∧
        ∀ fault, t.evaluateFor levels payload = .error fault ↔
          ∃ c, Reaches (·.holdsFor levels payload) t c ∧ c.holdsFor levels payload = .error fault := by
  refine ⟨fun levels payload => ⟨evaluateBy_eq_holdsBy t, fun fault => ?_⟩,
    fun levels payload => ⟨evaluateBy_eq_holdsBy t, fun fault => ?_⟩⟩
  · rw [evaluate, evaluateBy_eq_holdsBy]
    exact holdsBy_eq_error_iff
  · rw [evaluateFor, evaluateBy_eq_holdsBy]
    exact holdsBy_eq_error_iff

end RuleLabels.Tree
