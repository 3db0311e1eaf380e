import RuleLabels.Http
import RuleLabels.Http.Address

/-!
# A client of the service

What becomes of an address for a client that uses the service without a server between them. It takes the
steps of relative paths, decodes a path before it sends it, and follows where paths have moved.
-/

namespace RuleLabels.Http

/-- Why a client gets no response. -/
inductive ClientFault where
  | address (e : AddressFault)
  | tooManyRedirects
  deriving DecidableEq

namespace Client

/-- A path as it is sent, already decoded. -/
def sentPath (path : List Char) : String :=
  Text.percentDecode (String.ofList (if path.isEmpty then ['/'] else path))

/-- The path that is sent for an address. One without a scheme or without a host is of this service. -/
def pathOf (a : Address) : Except AddressFault String :=
  if a.isAbsolute then a.checkReachable.map fun _ => sentPath a.path
  else .ok (sentPath (Address.walked ('/' :: a.path.dropWhile (· = '/'))))

/-- The request of a method to an address. -/
def request (method url : String) (body : Option String) : Except AddressFault Request := do
  let a ← Address.read url
  let path ← pathOf a
  return ⟨Text.upper method, path, String.ofList (a.query.getD []), body⟩

/-- A request that is made again where its path has moved to, which is encoded once more. -/
def again (r : Request) (t : Target) : Request :=
  { r with path := sentPath (Address.walked (Text.percentEncode ['/'] t.path).toList), query := t.query }

/-- Makes a request, and again wherever it has moved to, at most a number of times. -/
def follow : Nat → Request → Service (Except ClientFault Response)
  | 0, r => do
    let response ← respond r
    return if response.moved?.isSome then .error .tooManyRedirects else .ok response
  | redirects + 1, r => do
    let response ← respond r
    match response.moved? with
    | none => return .ok response
    | some t => follow redirects (again r t)

/-- The most redirections that are followed. -/
def maxRedirects : Nat := 20

/-- The response that a client gets from an address. -/
def send (method url : String) (body : Option String) : Service (Except ClientFault Response) :=
  match request method url body with
  | .error e => return .error (.address e)
  | .ok r => follow maxRedirects r

end Client

end RuleLabels.Http
