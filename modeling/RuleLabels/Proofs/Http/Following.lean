import Mathlib.Tactic.Common
import RuleLabels.Http.Client
import RuleLabels.Proofs.Http.Refusals

/-!
# What clients get

A client may be told more than once that a path has moved.  These requests leave no trace, so what it gets in the
end is what the service answers to one request in the session as it was: all that is said of requests holds for
clients.

* `Carried.eq_of_moved?`: what has moved is left as it was;
* `exists_respond_of_follow`: the request behind what a client gets.
-/

namespace RuleLabels.Http

open Session

variable {s after : Session} {r : Request} {response : Response} {t : Target}

theorem Cause.moved?_response (c : Cause) : c.response.moved? = none := by
  cases htold : c.told? with
  | some error =>
    rw [response_of_told? htold]
    rfl
  | none =>
    cases c with
    | badBody e =>
      rw [response_of_error? rfl]
      split <;> rfl
    | failed f =>
      cases f with
      | invalid _ | ruleNotFound _ | unusableRules _ _ | store _ =>
        rw [response_of_error? rfl]
        split <;> rfl
      | _ => rfl
    | _ => rfl

theorem Response.moved?_seenBy (h : (response.seenBy r.method).moved? = some t) : response.moved? = some t := by
  rw [seenBy] at h
  split at h
  · cases h
  · exact h

/-- What has moved is left as it was. -/
theorem Carried.eq_of_moved? (h : Carried s r response after) (hmoved : response.moved? = some t) : after = s := by
  cases h with
  | @refused c _ _ _ _ => cases c.moved?_response.symm.trans hmoved
  | moved _ => rfl
  | @done e _ _ _ _ _ herror hperform =>
    have hanswers : Answers s e (.ok response, after) := hperform ▸ answers_perform s r.target herror
    rcases hanswers.isAnswer rfl with ⟨-, hstays⟩ | rfl
    · cases hstays.symm.trans hmoved
    · cases hmoved

/-- **A client gets what the service answers.**  It makes some request to the session as it was, and gets the
response, unless it is told once more that the path has moved. -/
theorem exists_respond_of_follow (s : Session) (redirects : Nat) (r : Request) :
    ∃ last response after, s.run (respond last) = (.ok response, after) ∧
      s.run (Client.follow redirects r) =
        (.ok (if response.moved?.isSome then .error .tooManyRedirects else .ok response), after) := by
  induction redirects generalizing r with
  | zero =>
    obtain ⟨response, after, hrun, -⟩ := exists_carried s r
    refine ⟨r, _, _, hrun, ?_⟩
    rw [Client.follow, run_bind_ok hrun]
    rfl
  | succ redirects ih =>
    obtain ⟨response, after, hrun, hcarried⟩ := exists_carried s r
    rw [Client.follow, run_bind_ok hrun]
    cases hmoved : (response.seenBy r.method).moved? with
    | none =>
      refine ⟨r, _, _, hrun, ?_⟩
      rw [hmoved]
      rfl
    | some t =>
      obtain rfl := hcarried.eq_of_moved? (Response.moved?_seenBy hmoved)
      rw [back_elsewhere]
      exact ih (Client.again r t)

end RuleLabels.Http
