import RuleLabels.Http.Target

/-!
# Routes

Which operation a request asks for, by its method and its path. A path that no place has may have moved: there
is a place with or without a slash at its end.
-/

namespace RuleLabels.Http

/-- The operations that requests may ask for. -/
inductive Endpoint where
  | health
  | listRules
  | createRule
  | readRule (id : String)
  | updateRule (id : String)
  | deleteRule (id : String)
  | toggleRule (id : String)
  | process
  | test
  | statistics
  | records
  | document
  deriving DecidableEq

/-- The paths that routes have. -/
inductive Place where
  | health
  | rules
  | rule (id : String)
  | toggle (id : String)
  | process
  | test
  | statistics
  | records
  | document
  deriving DecidableEq

namespace Place

/-- The paths without parameters; behind some there are documents about the service. -/
def fixed : List (String × Place) := [
  ("/healthz", health), ("/api/rules", rules), ("/api/process", process), ("/api/test", test),
  ("/api/statistics", statistics), ("/api/records", records), ("/openapi.json", document),
  ("/docs", document), ("/docs/oauth2-redirect", document), ("/redoc", document)]

/-- A text without the line feed that it may end with. -/
def withoutFinalNewline (s : String) : String :=
  if s.toList.getLast? = some '\n' then String.ofList s.toList.dropLast else s

/-- The parts of a path behind the path of the rules. -/
def behindRules? (path : String) : Option (List String) :=
  let start := "/api/rules/".toList
  if start.isPrefixOf path.toList then
    some ((Text.splitAt '/' (path.toList.drop start.length)).map String.ofList)
  else none

/-- The place that a path names. -/
def ofPath? (path : String) : Option Place :=
  match fixed.lookup (withoutFinalNewline path) with
  | some place => some place
  | none =>
    match behindRules? path with
    | some [id] => if id.isEmpty then none else some (rule id)
    | some [id, last] =>
      if !id.isEmpty ∧ withoutFinalNewline last = "toggle" then some (toggle id) else none
    | _ => none

/-- The operation that a method asks for at a place. -/
def endpoint? (method : String) : Place → Option Endpoint
  | health => if method = "GET" then some .health else none
  | rules =>
    if method = "GET" then some .listRules
    else if method = "POST" then some .createRule
    else none
  | rule id =>
    if method = "GET" then some (.readRule id)
    else if method = "PUT" then some (.updateRule id)
    else if method = "DELETE" then some (.deleteRule id)
    else none
  | toggle id => if method = "POST" then some (.toggleRule id) else none
  | process => if method = "POST" then some .process else none
  | test => if method = "POST" then some .test else none
  | statistics => if method = "GET" then some .statistics else none
  | records => if method = "GET" then some .records else none
  | document => if method = "GET" ∨ method = "HEAD" then some .document else none

end Place

/-- What a request leads to. -/
inductive Route where
  | endpoint (e : Endpoint)
  | wrongMethod
  | moved
  | notFound
  deriving DecidableEq

/-- The route of a method to a target. A path that no place has may be one but for slashes at its end. -/
def Route.find (method : String) (t : Target) : Route :=
  match Place.ofPath? t.path with
  | some place =>
    match place.endpoint? method with
    | some e => endpoint e
    | none => wrongMethod
  | none => if t.path ≠ "/" ∧ (Place.ofPath? t.moved.path).isSome then moved else notFound

end RuleLabels.Http
