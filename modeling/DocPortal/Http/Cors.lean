/-
Cross-origin requests.

Credentials are allowed, so an allowed origin is always named: it is the
origin of the request, either whatever it is or only if it is listed. A
list with nothing usable in it allows no origin. The preflight request, an
OPTIONS request for any path, is answered here.
-/
import DocPortal.Http.Message
import DocPortal.Log.Report

namespace DocPortal.Http

open Log (Event Report)

/-- A response, with the events of making it. -/
structure Answer where
  response : Response
  events : List Event := []
deriving DecidableEq

namespace Cors

/-- Which origins may read a response. -/
inductive OriginRule where
  /-- Whatever the origin of the request is. -/
  | unrestricted
  /-- The origins of the list. -/
  | listed (origins : List HeaderValue)
deriving DecidableEq

/-- Why a list of origins makes no rule. -/
inductive OriginError where
  /-- The list has the wildcard, which cannot go together with credentials. -/
  | wildcard
deriving DecidableEq, Repr

def OriginError.message : OriginError → String
  | wildcard =>
    "Wildcard origin (`*`) cannot be passed to `AllowOrigin::list`. " ++
      "Use `AllowOrigin::any()` instead"

namespace OriginRule

/-- What stands for every origin where there are no credentials. -/
def wildcard : HeaderValue := .ofVisible "*" (by decide)

/-- The event for an origin that is no header value and is left out. -/
def ignored (origin : String) : Event :=
  ⟨.warn, "docs_gateway::middleware", "Ignoring invalid CORS origin " ++ origin⟩

/-- The origins that are not header values. -/
def unusable (origins : List String) : List String :=
  origins.filter fun origin => (HeaderValue.ofText? origin).isNone

/-- The rule of a list of origins, which may not have the wildcard in it. -/
def ofList (origins : List HeaderValue) : Except OriginError OriginRule :=
  if wildcard ∈ origins then .error .wildcard else .ok (listed origins)

/-- The rule for configured origins. Origins that are no header values are left out, but the
list they stood in stays a list; only where none is configured is every origin allowed. -/
def ofOrigins (origins : List String) : Report OriginError OriginRule where
  events := (unusable origins).map ignored
  result :=
    if origins = [] then .ok unrestricted else ofList (origins.filterMap HeaderValue.ofText?)

/-- The origin that a response allows, given that of the request. -/
def allowed? (rule : OriginRule) (origin : Option HeaderValue) : Option HeaderValue :=
  match rule with
  | unrestricted => origin
  | listed origins => origin.filter (· ∈ origins)

end OriginRule

/-! ## The layer -/

/-- The fields that depend on the request as far as caches are concerned. -/
def varied : HeaderValue :=
  .ofVisible "origin, access-control-request-method, access-control-request-headers" (by decide)

/-- The fields of every response. -/
def commonHeaders (rule : OriginRule) (request : Request) : Headers :=
  ((rule.allowed? (request.headers.first? .origin)).map fun origin =>
    (HeaderName.allowOrigin, origin)).toList ++
  [(.allowCredentials, .ofVisible "true" (by decide)), (.vary, varied)]

/-- The answer to a preflight request: what may be sent, and the headers it asks for. -/
def preflight (rule : OriginRule) (request : Request) : Response where
  status := .ok
  headers := commonHeaders rule request ++
    [(.allowMethods, .ofVisible "GET,HEAD,OPTIONS" (by decide))] ++
    ((request.headers.first? .requestHeaders).map fun asked =>
      (HeaderName.allowHeaders, asked)).toList

/-- Answers a request by a handler under the rule, or on its own where it is a preflight. -/
def layer (rule : OriginRule) (handle : Request → Answer) (request : Request) : Answer :=
  if request.method = .options then { response := preflight rule request }
  else
    let answer := handle request
    { answer with
      response.headers := answer.response.headers ++ commonHeaders rule request }

end Cors

end DocPortal.Http
