import RuleLabels.Http.Body
import RuleLabels.Http.Route
import RuleLabels.Processing

/-!
# The service

The operations on rules and payloads as requests and responses. Responses are JSON documents; one of a
failed operation tells the code and the wording of the failure, and the place of a fault.
-/

namespace RuleLabels.Http

/-- A request: its method, its path as it was sent, with percent signs, its query, and its body as JSON text. -/
structure Request where
  method : String
  path : String
  query : String
  body : Option String

namespace Request

/-- What a request asks for. Its path is decoded once. -/
def target (r : Request) : Target := ⟨Text.percentDecode r.path, r.query⟩

/-- The route of a request. -/
def route (r : Request) : Route := Route.find r.method r.target

end Request

/-- The body of a response, or where the same may be requested. -/
inductive Content where
  | json (v : Value)
  | text (s : String)
  | moved (t : Target)
  | empty

/-- A response. -/
structure Response where
  status : Nat
  content : Content

/-- Where the same may be requested, if the path has moved. -/
def Response.moved? (response : Response) : Option Target :=
  match response.content with
  | .moved t => some t
  | _ => none

/-- The response of an operation that fails without a code. -/
def Response.broken : Response := ⟨500, .text "Internal Server Error"⟩

/-! ## Responses -/

mutual

/-- A document in which null stands for the floats that are no numbers. -/
def finiteValue : Value → Value
  | .float .nan => .null
  | .float (.infinite _) => .null
  | .array items => .array (finiteItems items)
  | .object fields => .object (finiteFields fields)
  | v => v

/-- Items in which null stands for the floats that are no numbers. -/
def finiteItems : List Value → List Value
  | [] => []
  | v :: rest => finiteValue v :: finiteItems rest

/-- Fields in which null stands for the floats that are no numbers. -/
def finiteFields : List (String × Value) → List (String × Value)
  | [] => []
  | (k, v) :: rest => (k, finiteValue v) :: finiteFields rest

end

mutual

/-- More than some number of values are inside each other, or some text holds half of a character. -/
def isUnsendable : Nat → Value → Bool
  | 0, _ => true
  | _ + 1, .text s => s.toList.any Text.isHalf
  | room + 1, .array items => unsendableItems room items
  | room + 1, .object fields => unsendableFields room fields
  | _ + 1, _ => false

/-- Some item cannot be sent. -/
def unsendableItems : Nat → List Value → Bool
  | _, [] => false
  | room, v :: rest => isUnsendable room v || unsendableItems room rest

/-- Some field cannot be sent. -/
def unsendableFields : Nat → List (String × Value) → Bool
  | _, [] => false
  | room, (k, v) :: rest =>
    k.toList.any Text.isHalf || isUnsendable room v || unsendableFields room rest

end

/-- The most values inside each other in a field of a response. -/
def maxNesting : Nat := 255

/-- The response of a successful operation. One with an integer that has too many digits is sent as it is
written, and what cannot be sent becomes a failure. -/
def success (status : Nat) (fields : Fields) : Response :=
  let v := Value.object (("ok", .bool true) :: fields)
  if unsendableFields maxNesting fields then .broken
  else if v.hasText then ⟨status, .json (finiteValue v)⟩
  else ⟨status, .text (Json.tight (finiteValue v))⟩

/-- The response of a failed operation. -/
def failed (status : Nat) (code message : String) (path : Option String) : Response :=
  let error := [("code", Value.text code), ("message", .text message)]
    ++ (match path with | some p => [("path", .text p)] | none => [])
  if unsendableFields maxNesting error then .broken
  else ⟨status, .json (.object [("ok", .bool false), ("error", .object error)])⟩

/-- The response for a request that leads nowhere. -/
def refused (status : Nat) (detail : String) : Response :=
  ⟨status, .json (.object [("detail", .text detail)])⟩

/-- The response for a body with a fault. -/
def badBody (e : BodyError) : Response :=
  failed 400 ErrorCode.validationFailed.name e.fault.text (some ("$." ++ e.place))

/-- The response for a body that cannot be read. -/
def BodyFailure.response : BodyFailure → Response
  | .fault e => badBody e
  | .unreadable => refused 400 "There was an error parsing the body"

/-- The response for a failure. -/
def ofFailure (f : Failure) : Response :=
  match f with
  | .invalid e => failed 400 e.fault.code.name e.fault.text (some e.path.text)
  | .ruleNotFound id => failed 404 ErrorCode.ruleNotFound.name ("rule not found: " ++ id) none
  | f =>
    match f.coded? with
    | some (code, _) => failed 500 code.name f.text none
    | none => .broken

/-! ## Operations -/

/-- A bound on the time, unless the parameter is absent or blank. -/
def timeBound (t : Target) (name : String) : Checked (Option Timestamp) :=
  match t.parameter? name with
  | none => .ok none
  | some s =>
    if Text.allBlank s then .ok none
    else ((Value.text s).readTimestamp (Path.document.field name)).map some

/-- The criteria that the query of a request gives. -/
def criteria (t : Target) : Checked Criteria := do
  let since ← timeBound t "from"
  let till ← timeBound t "to"
  return ⟨(t.parameter? "label").filter (!·.isEmpty), since, till⟩

/-- A rule in a response. -/
def ruleResponse (status : Nat) (r : Rule) : Response := success status [("rule", r.toValue)]

/-- A body about a rule, handed on to an operation. -/
def withRuleFields (body : Option Value) (k : Fields → Service Response) : Service Response :=
  match readRule body with
  | .error e => pure (badBody e)
  | .ok fields => k fields

/-- Does what a request asks for. -/
def perform (e : Endpoint) (t : Target) (body : Option Value) : Service Response :=
  match e with
  | .health => do
    let info ← (← Service.store).info
    let now ← Action.now
    return success 200 ([("service", .text "rule-labeler")] ++ info ++ [("ts", .text now.text)])
  | .listRules => do
    return success 200 [("rules", .array ((← Service.rules).map Rule.toValue))]
  | .createRule => withRuleFields body fun fields => do
    return ruleResponse 201 (← Service.createRule fields)
  | .readRule id => do return ruleResponse 200 (← Service.rule id)
  | .updateRule id => withRuleFields body fun fields => do
    return ruleResponse 200 (← Service.updateRule id fields)
  | .deleteRule id => do
    Service.deleteRule id
    return ⟨204, .empty⟩
  | .toggleRule id =>
    match readSwitch body with
    | .error e => pure (badBody e)
    | .ok enabled => do return ruleResponse 200 (← Service.toggleRule id enabled)
  | .process => do
    let r ← Service.process (body.getD .null)
    return success 200 [("id", .text r.id), ("labels", Value.ofTexts r.labels),
      ("timestamp", .text r.createdAt.text)]
  | .test => do
    let r ← Service.dryRun (body.getD .null)
    return success 200 [("labels", Value.ofTexts r.labels), ("timestamp", .text r.timestamp.text)]
  | .statistics => do
    let c ← Action.ofChecked (criteria t)
    return success 200 (← Service.statistics c).fields
  | .records => do
    let rows ← Service.records
    return success 200 [("count", .int rows.length), ("records", .array (rows.map Record.toValue))]
  | .document => return ⟨200, .text ""⟩

/-- The operations that read a body. -/
def Endpoint.readsBody : Endpoint → Bool
  | .createRule | .updateRule _ | .toggleRule _ | .process | .test => true
  | _ => false

/-- Tells the log of a failure, unless it has no code or is one of the request. -/
def note (f : Failure) : Service Unit :=
  match f with
  | .invalid _ | .ruleNotFound _ => pure ()
  | f =>
    if f.coded?.isSome then Action.log .error "labeler.api" s!"request failed: {f.text}"
    else pure ()

/-- An operation whose failure becomes a response. -/
def answered (x : Service Response) : Service Response :=
  tryCatch x fun f => do
    note f
    return ofFailure f

/-- The body of a request as an operation gets it. -/
def Request.bodyFor (r : Request) (e : Endpoint) : Except BodyFailure (Option Value) :=
  if e.readsBody then readBody r.body else .ok none

/-- The response to a request at a route. -/
def respondAt (r : Request) : Route → Service Response
  | .notFound => return refused 404 "Not Found"
  | .wrongMethod => return refused 405 "Method Not Allowed"
  | .moved => return ⟨307, .moved r.target.moved⟩
  | .endpoint e =>
    match r.bodyFor e with
    | .error failure => pure failure.response
    | .ok body => answered (perform e r.target body)

/-- A response as its request sees it: one that asks for the head alone gets no body. -/
def Response.seenBy (method : String) (response : Response) : Response :=
  if method = "HEAD" ∧ response.moved?.isNone then { response with content := .empty } else response

/-- The response to a request, which is answered by another thread. -/
@[irreducible]
def respond (r : Request) : Service Response := do
  let response ← Service.elsewhere (respondAt r r.route)
  return response.seenBy r.method

end RuleLabels.Http
