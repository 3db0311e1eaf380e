import RuleLabels.Text.Cut
import RuleLabels.Text.Percent

/-!
# Request targets

What a request asks for: a path, which is compared after percent decoding, and the parameters of a query.
-/

namespace RuleLabels.Http

/-- The path of a request, decoded, and its query as it was sent. -/
structure Target where
  path : String
  query : String
  deriving DecidableEq

namespace Target

/-- The parameters of the query, in order. -/
def parameters (t : Target) : List (String × String) :=
  (Text.splitAt '&' t.query.toList).filterMap fun part =>
    if part.isEmpty then none
    else
      let name := part.takeWhile (· ≠ '=')
      let value := (part.dropWhile (· ≠ '=')).drop 1
      some (Text.percentDecodeQuery (String.ofList name), Text.percentDecodeQuery (String.ofList value))

/-- The value of a parameter; of several the last one counts. -/
def parameter? (t : Target) (name : String) : Option String := t.parameters.reverse.lookup name

/-- The target with a slash at the end of its path, or without the slashes that it has there. -/
def moved (t : Target) : Target :=
  let cs := t.path.toList
  { t with
    path := if cs.getLast? = some '/' then String.ofList (cs.reverse.dropWhile (· = '/')).reverse
      else t.path ++ "/" }

end Target

end RuleLabels.Http
