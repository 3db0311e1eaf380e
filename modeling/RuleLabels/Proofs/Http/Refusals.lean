import Mathlib.Tactic.Common
import RuleLabels.Proofs.Http.Answers

/-!
# Refusals

A response with a status of 400 or more has one of six causes: the path leads nowhere, or not by this
method, the body cannot be read, or has a fault, the operation failed, or what it came to cannot be sent.
Faults of bodies and failures with a code are told, in an object with the code and a message; the others
are not.  A refused request changes nothing, but for a write whose answer cannot be sent: it is done.

* `Cause`: why a request is refused, `Cause.response` how, and `Cause.told?` what is told about it;
* `Carried` and `exists_carried`: a request is refused for a cause, has moved, or its operation succeeds;
* `respond_refusal`: every response with such a status has a cause.
-/

namespace RuleLabels.Http

open Session

/-! ## Heads of documents -/

variable {s : Session} {r : Request} {e : Endpoint}

theorem Place.eq_document_of_head {place : Place} {e : Endpoint} (h : place.endpoint? "HEAD" = some e) :
    e = .document := by
  cases place with
  | document =>
    cases h
    rfl
  | _ => simp [endpoint?] at h

/-- An operation is found at the place of the path, by the method of the request. -/
theorem Request.exists_place_of_route (h : r.route = .endpoint e) :
    ∃ place, Place.ofPath? r.target.path = some place ∧ place.endpoint? r.method = some e := by
  rw [route, Route.find] at h
  split at h
  · rename_i place hplace
    split at h
    · rename_i e' he
      cases h
      exact ⟨place, hplace, he⟩
    · cases h
  · split at h <;> cases h

/-- Only of a document about the service the head alone may be asked for. -/
theorem Request.ne_head_of_route (h : r.route = .endpoint e) (he : e ≠ .document) : r.method ≠ "HEAD" := by
  obtain ⟨place, -, hplace⟩ := exists_place_of_route h
  intro hhead
  rw [hhead] at hplace
  exact he (Place.eq_document_of_head hplace)

/-! ## Causes -/

/-- Why a request is refused. -/
inductive Cause where
  | nowhere
  | wrongMethod
  | unreadable
  | badBody (e : BodyError)
  | failed (f : Failure)
  | unsent (e : Endpoint)

namespace Cause

/-- The operation that succeeded though its request is refused. -/
def unsent? : Cause → Option Endpoint
  | unsent e => some e
  | _ => none

/-- The status of a response with a cause. -/
def status : Cause → Nat
  | nowhere => 404
  | wrongMethod => 405
  | unreadable | badBody _ => 400
  | failed (.invalid _) => 400
  | failed (.ruleNotFound _) => 404
  | failed _ | unsent _ => 500

/-- How a request is refused. -/
def response : Cause → Response
  | nowhere => refused 404 "Not Found"
  | wrongMethod => refused 405 "Method Not Allowed"
  | unreadable => refused 400 "There was an error parsing the body"
  | badBody e => Http.badBody e
  | failed f => ofFailure f
  | unsent _ => .broken

/-- The code and the wording of a cause that has a code, and the place of a fault. -/
def error? : Cause → Option Fields
  | badBody e =>
    some [("code", .text ErrorCode.validationFailed.name), ("message", .text e.fault.text),
      ("path", .text ("$." ++ e.place))]
  | failed (.invalid e) =>
    some [("code", .text e.fault.code.name), ("message", .text e.fault.text), ("path", .text e.path.text)]
  | failed (.ruleNotFound id) =>
    some [("code", .text ErrorCode.ruleNotFound.name), ("message", .text ("rule not found: " ++ id))]
  | failed f => f.coded?.map fun coded => [("code", .text coded.1.name), ("message", .text f.text)]
  | _ => none

/-- What is told about a cause: code and wording, unless they cannot be sent. -/
def told? (c : Cause) : Option Fields := c.error?.filter fun error => !unsendableFields maxNesting error

/-- A request has a cause to be refused by a thread that carries it out in a session. -/
def Arises (s : Session) (r : Request) : Cause → Prop
  | nowhere => r.route = .notFound
  | wrongMethod => r.route = .wrongMethod
  | unreadable => ∃ e, r.route = .endpoint e ∧ r.bodyFor e = .error .unreadable
  | badBody error => ∃ e, r.route = .endpoint e ∧
      (r.bodyFor e = .error (.fault error) ∨ ∃ body, r.bodyFor e = .ok body ∧ e.bodyError? body = some error)
  | failed f => ∃ e body, r.route = .endpoint e ∧ r.bodyFor e = .ok body ∧ e.bodyError? body = none ∧
      (s.run (perform e r.target body)).1 = .error f
  | unsent e => ∃ body, r.route = .endpoint e ∧ r.bodyFor e = .ok body ∧ e.bodyError? body = none ∧
      (s.run (perform e r.target body)).1 = .ok .broken

end Cause

/-! ## What is told -/

/-- The document about an error. -/
def enveloped (error : Fields) : Value := .object [("ok", .bool false), ("error", .object error)]

/-- A response is a document about an error that has a code and a message. -/
def Response.isEnvelope (response : Response) : Bool :=
  match response.content with
  | .json (.object [("ok", .bool false), ("error", .object (("code", .text _) :: ("message", .text _) :: _))]) =>
    true
  | _ => false

theorem isEnvelope_refused (status : Nat) (detail : String) : (refused status detail).isEnvelope = false := rfl

theorem isEnvelope_broken : Response.broken.isEnvelope = false := rfl

/-- Who asks for more than a head sees all of a response. -/
theorem Response.seenBy_of_ne {method : String} (h : method ≠ "HEAD") (response : Response) :
    response.seenBy method = response := by
  rw [seenBy, if_neg fun hboth => h hboth.1]

/-- Who asks for a head sees no document. -/
theorem Response.isEnvelope_seenBy {response : Response} (h : response.isEnvelope = false) (method : String) :
    (response.seenBy method).isEnvelope = false := by
  rw [seenBy]
  split
  · rfl
  · exact h

theorem Response.status_seenBy (response : Response) (method : String) :
    (response.seenBy method).status = response.status := by
  rw [seenBy]
  split <;> rfl

namespace Cause

variable {c : Cause} {error : Fields}

theorem exists_of_error? (h : c.error? = some error) :
    ∃ code message more, error = ("code", .text code) :: ("message", .text message) :: more := by
  cases c with
  | badBody e =>
    cases h
    exact ⟨_, _, _, rfl⟩
  | failed f =>
    cases f with
    | invalid _ | ruleNotFound _ | unusableRules _ _ | store _ =>
      cases h
      exact ⟨_, _, _, rfl⟩
    | _ => cases h
  | _ => cases h

/-- What has a code is told, or nothing is. -/
theorem response_of_error? (h : c.error? = some error) :
    c.response =
      if unsendableFields maxNesting error then .broken else ⟨c.status, .json (enveloped error)⟩ := by
  cases c with
  | badBody e =>
    cases h
    rfl
  | failed f =>
    cases f with
    | invalid _ | ruleNotFound _ | unusableRules _ _ | store _ =>
      cases h
      rfl
    | _ => cases h
  | _ => cases h

/-- What has no code is not told. -/
theorem isEnvelope_of_error? (h : c.error? = none) : c.response.isEnvelope = false := by
  cases c with
  | nowhere | wrongMethod | unreadable => exact isEnvelope_refused _ _
  | badBody e => cases h
  | failed f =>
    cases f with
    | invalid _ | ruleNotFound _ | unusableRules _ _ | store _ => cases h
    | _ => exact isEnvelope_broken
  | unsent e => exact isEnvelope_broken

/-- A request is refused with a status of 400 or more. -/
theorem le_status_response (c : Cause) : 400 ≤ c.response.status := by
  cases herror : c.error? with
  | some error =>
    rw [response_of_error? herror]
    split
    · decide
    · cases c with
      | failed f => cases f <;> simp [status]
      | _ => simp [status]
  | none =>
    cases c with
    | badBody e => cases herror
    | failed f =>
      cases f with
      | invalid _ | ruleNotFound _ | unusableRules _ _ | store _ => cases herror
      | _ => simp [response, ofFailure, Failure.coded?, Response.broken]
    | _ => simp [response, refused, Response.broken]

theorem response_of_told? (h : c.told? = some error) : c.response = ⟨c.status, .json (enveloped error)⟩ := by
  obtain ⟨herror, hsendable⟩ := Option.filter_eq_some_iff.1 h
  rw [Bool.not_eq_true'] at hsendable
  rw [response_of_error? herror, hsendable]
  rfl

theorem isEnvelope_response (c : Cause) : c.response.isEnvelope = c.told?.isSome := by
  cases htold : c.told? with
  | some error =>
    obtain ⟨code, message, more, rfl⟩ := exists_of_error? (Option.filter_eq_some_iff.1 htold).1
    rw [response_of_told? htold]
    rfl
  | none =>
    cases herror : c.error? with
    | none => exact isEnvelope_of_error? herror
    | some error =>
      rw [told?, herror, Option.filter_eq_none_iff] at htold
      have hunsendable := htold error rfl
      rw [Bool.not_eq_true', Bool.not_eq_false] at hunsendable
      rw [response_of_error? herror, hunsendable]
      exact isEnvelope_broken

end Cause

/-! ## Requests -/

/-- What is told about is no request for a head. -/
theorem Cause.ne_head_of_told? {c : Cause} {error : Fields} (h : c.told? = some error)
    (harises : c.Arises s r) : r.method ≠ "HEAD" := by
  cases c with
  | badBody e =>
    obtain ⟨e, hroute, hbody⟩ := harises
    refine r.ne_head_of_route hroute ?_
    rintro rfl
    obtain hbody | ⟨body, -, herror⟩ := hbody
    · cases hbody
    · cases herror
  | failed f =>
    obtain ⟨e, body, hroute, -, -, hfailed⟩ := harises
    refine r.ne_head_of_route hroute ?_
    rintro rfl
    cases hfailed
  | _ => cases h

/-- What a request comes to where a thread carries it out: it is refused for a cause and leaves no trace, its
path has moved, or its operation succeeds. -/
inductive Carried (s : Session) (r : Request) : Response → Session → Prop
  | refused {c : Cause} {w : World} (harises : c.Arises s r) (hsent : c.unsent? = none)
    (hw : s.world.Alike w) : Carried s r c.response ⟨s.store, w⟩
  | moved (hroute : r.route = .moved) : Carried s r ⟨307, .moved r.target.moved⟩ s
  | done {e : Endpoint} {body : Option Value} {response : Response} {after : Session}
    (hroute : r.route = .endpoint e) (hbody : r.bodyFor e = .ok body) (herror : e.bodyError? body = none)
    (hperform : s.run (perform e r.target body) = (.ok response, after)) : Carried s r response after

/-- Every request comes to a response. -/
theorem exists_carried_at (s : Session) (r : Request) :
    ∃ response after, s.run (respondAt r r.route) = (.ok response, after) ∧ Carried s r response after := by
  cases hroute : r.route with
  | notFound => exact ⟨_, s, rfl, .refused (c := .nowhere) hroute rfl (.refl _)⟩
  | wrongMethod => exact ⟨_, s, rfl, .refused (c := .wrongMethod) hroute rfl (.refl _)⟩
  | moved => exact ⟨_, s, rfl, .moved hroute⟩
  | endpoint e =>
    rw [respondAt]
    cases hbody : r.bodyFor e with
    | error failure =>
      cases failure with
      | fault error =>
        exact ⟨_, s, rfl, .refused (c := .badBody error) ⟨e, hroute, .inl hbody⟩ rfl (.refl _)⟩
      | unreadable => exact ⟨_, s, rfl, .refused (c := .unreadable) ⟨e, hroute, hbody⟩ rfl (.refl _)⟩
    | ok body =>
      dsimp only
      cases herror : e.bodyError? body with
      | some error =>
        refine ⟨badBody error, s, ?_,
          .refused (c := .badBody error) ⟨e, hroute, .inr ⟨body, hbody, herror⟩⟩ rfl (.refl _)⟩
        rw [perform_of_bodyError? herror]
        exact run_answered_ok rfl
      | none =>
        have hdoes := (answers_perform s r.target herror).does
        cases hperform : s.run (perform e r.target body) with
        | mk result after =>
          cases result with
          | ok response => exact ⟨response, after, run_answered_ok hperform, .done hroute hbody herror hperform⟩
          | error f =>
            have hfailed : (s.run (perform e r.target body)).1 = .error f := by rw [hperform]
            obtain ⟨w, hw, hrun⟩ := run_answered_error hperform
            rw [hperform] at hdoes
            cases hdoes with
            | fails _ halike =>
              exact ⟨_, _, hrun, .refused (c := .failed f) ⟨e, body, hroute, hbody, herror, hfailed⟩ rfl
                (halike.trans hw)⟩

/-- Every request gets what it comes to in another thread. -/
theorem exists_carried (s : Session) (r : Request) : ∃ response after,
    s.run (respond r) = (.ok (response.seenBy r.method), s.back after) ∧ Carried s.elsewhere r response after := by
  obtain ⟨response, after, hrun, hcarried⟩ := exists_carried_at s.elsewhere r
  exact ⟨response, after, run_respond hrun, hcarried⟩

/-- A cause explains a response with a status of 400 or more: it arises, and the response is how it refuses.
The response is an object with `ok` and `error` just where something is told of the cause, with its status
then.  The session is as it was, unless the operation writes and only its answer cannot be sent: what it did is
done then. -/
structure Cause.Explains (c : Cause) (s : Session) (r : Request) (response : Response) (after : Session) :
    Prop where
  arises : c.Arises s.elsewhere r
  response_eq : response = c.response.seenBy r.method
  isEnvelope_eq : response.isEnvelope = c.told?.isSome
  told : ∀ error, c.told? = some error → response = ⟨c.status, .json (enveloped error)⟩
  unchanged : (∀ e, c.unsent? = some e → e.writes = false) → s.Unchanged after
  done : ∀ e, c.unsent? = some e → ∃ body, r.route = .endpoint e ∧ r.bodyFor e = .ok body ∧
    after = s.back (s.elsewhere.run (perform e r.target body)).2

/-- A cause that arises explains how it refuses, if what is left is explained. -/
theorem Cause.explains {c : Cause} {after : Session} (harises : c.Arises s.elsewhere r)
    (hunchanged : (∀ e, c.unsent? = some e → e.writes = false) → s.Unchanged after)
    (hdone : ∀ e, c.unsent? = some e → ∃ body, r.route = .endpoint e ∧ r.bodyFor e = .ok body ∧
      after = s.back (s.elsewhere.run (perform e r.target body)).2) :
    c.Explains s r (c.response.seenBy r.method) after := by
  refine ⟨harises, rfl, ?_, ?_, hunchanged, hdone⟩
  · cases htold : c.told? with
    | some error =>
      rw [Response.seenBy_of_ne (ne_head_of_told? htold harises), isEnvelope_response, htold]
    | none =>
      refine Response.isEnvelope_seenBy ?_ _
      rw [isEnvelope_response, htold]
      rfl
  · intro error htold
    rw [Response.seenBy_of_ne (ne_head_of_told? htold harises), response_of_told? htold]

/-- What an operation leaves behind that writes nothing. -/
theorem Answers.unchanged {response : Response} {after : Session}
    (h : Answers s.elsewhere e (.ok response, after)) (hwrites : e.writes = false) :
    s.Unchanged (s.back after) := by
  cases h.does with
  | looks _ halike =>
    rw [back_elsewhere]
    exact .of_alike halike
  | writes _ hmay _ _ _ => exact absurd (hwrites.symm.trans hmay) Bool.false_ne_true

/-- **What refuses a request.**  Every request gets a response, and a response with a status of 400 or more has
a cause that explains it: a route that is none, a body, a failure of the operation, or an answer that cannot be
sent. -/
theorem respond_refusal (s : Session) (r : Request) : ∃ response, (s.run (respond r)).1 = .ok response ∧
    (400 ≤ response.status → ∃ c : Cause, c.Explains s r response (s.run (respond r)).2) := by
  obtain ⟨response, after, hrun, hcarried⟩ := exists_carried s r
  rw [hrun]
  refine ⟨_, rfl, fun hstatus => ?_⟩
  rw [Response.status_seenBy] at hstatus
  cases hcarried with
  | @refused c w harises hsent hw =>
    refine ⟨c, Cause.explains harises (fun _ => ?_) fun e he => ?_⟩
    · rw [back_elsewhere]
      exact .of_alike hw
    · cases hsent.symm.trans he
  | moved hroute => exact absurd hstatus (show ¬400 ≤ 307 by decide)
  | @done e body _ _ hroute hbody herror hperform =>
    have hanswers : Answers s.elsewhere e (.ok response, after) :=
      hperform ▸ answers_perform s.elsewhere r.target herror
    obtain rfl : response = .broken := (hanswers.isAnswer rfl).resolve_left fun hanswer => Nat.not_lt.2 hstatus hanswer.1
    refine ⟨.unsent e, Cause.explains ⟨body, hroute, hbody, herror, by rw [hperform]⟩
      (fun hwrites => hanswers.unchanged (hwrites e rfl)) fun e' he => ?_⟩
    cases he
    exact ⟨body, hroute, hbody, by rw [hperform]⟩

/-- A session in memory where a request gets a response that passes a check. -/
theorem exists_response (r : Request) (check : Response → Bool)
    (h : (openAt? .unbounded false .memory bareWorld).any fun s =>
      (s.run (respond r)).1.toOption.any check) :
    ∃ (s : Session) (response : Response), openAt? .unbounded false .memory bareWorld = some s ∧
      (s.run (respond r)).1 = .ok response ∧ check response = true := by
  obtain ⟨s, hs, hresponds⟩ := (Option.any_eq_true _ _).1 h
  obtain ⟨response, hresponse, hcheck⟩ := (Option.any_eq_true _ _).1 hresponds
  exact ⟨s, response, hs, except_toOption_eq_some.1 hresponse, hcheck⟩

/-- A request for a rule that is not there. -/
def unknownRule : Request := ⟨"GET", "/api/rules/none", "", none⟩

theorem respond_refusal_unknownRule :
    ∃ (s : Session) (response : Response) (c : Cause),
      openAt? .unbounded false .memory bareWorld = some s ∧
      (s.run (respond unknownRule)).1 = .ok response ∧ response.status = 404 ∧
      c.Explains s unknownRule response (s.run (respond unknownRule)).2 ∧ c.told?.isSome = true := by
  obtain ⟨s, response, hs, hgiven, hboth⟩ := exists_response unknownRule
    (fun response => response.status = 404 && response.isEnvelope) (by decide +kernel)
  obtain ⟨hstatus, henvelope⟩ := Bool.and_eq_true_iff.1 hboth
  rw [decide_eq_true_eq] at hstatus
  obtain ⟨response', hresponse, hexplained⟩ := respond_refusal s unknownRule
  cases hgiven.symm.trans hresponse
  obtain ⟨c, hc⟩ := hexplained (by omega)
  exact ⟨s, response, c, hs, hgiven, hstatus, hc, hc.isEnvelope_eq.symm.trans henvelope⟩

/-- A path that leads nowhere is refused without a document about the error. -/
theorem refusal_untold_nowhere :
    ∃ (s : Session) (response : Response), openAt? .unbounded false .memory bareWorld = some s ∧
      (s.run (respond ⟨"GET", "/nope", "", none⟩)).1 = .ok response ∧
      response.status = 404 ∧ response.isEnvelope = false := by
  obtain ⟨s, response, hs, hgiven, hboth⟩ := exists_response ⟨"GET", "/nope", "", none⟩
    (fun response => response.status = 404 && !response.isEnvelope) (by decide +kernel)
  obtain ⟨hstatus, henvelope⟩ := Bool.and_eq_true_iff.1 hboth
  rw [Bool.not_eq_true'] at henvelope
  exact ⟨s, response, hs, hgiven, of_decide_eq_true hstatus, henvelope⟩

end RuleLabels.Http
