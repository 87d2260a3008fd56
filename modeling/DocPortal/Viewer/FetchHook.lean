/-
What happens to the viewer's own requests for documents: the hook marks
each with the configured credential policy and leaves the rest alone. It
is here as a function on requests, and as the statements that do the same
in the scripts.
-/
import DocPortal.Http.Header
import DocPortal.Viewer.Config

namespace DocPortal.Viewer

open Http (Method Headers)

/-- A request the viewer is about to make, as far as the hook can see it. -/
structure FetchRequest where
  url : String
  method : Method := .get
  headers : Headers := []
  credentials : Option CredentialPolicy := none
deriving DecidableEq

/-- A hook that sets one credential policy. -/
structure FetchHook where
  policy : CredentialPolicy
deriving DecidableEq, Repr

namespace FetchHook

/-- The request as it is sent. -/
def intercept (hook : FetchHook) (request : FetchRequest) : FetchRequest :=
  { request with credentials := some hook.policy }

/-- The statements of the hook in a script, where `req` is the request. -/
def scriptBody (hook : FetchHook) : String :=
  "req.credentials = \"" ++ hook.policy.wireName ++ "\";"

/-- The request after each hook in turn, where a hook that could not be made changes nothing. -/
def interceptAll {ε : Type} (request : FetchRequest) (hooks : List (Except ε FetchHook)) :
    FetchRequest :=
  hooks.foldl (fun request hook => match hook with
    | .ok hook => hook.intercept request
    | .error _ => request) request

end FetchHook

/-- The hook of a configuration. -/
def Config.fetchHook (config : Config) : FetchHook :=
  ⟨config.credentials⟩

end DocPortal.Viewer
