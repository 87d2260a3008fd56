/-
The JSON body of an error response, in the shape that the documented
services use for theirs.
-/
import DocPortal.Http.Status
import DocPortal.Json.Value

namespace DocPortal.Site

open Http (StatusCode)

/-- What went wrong with a request. -/
structure Problem where
  /-- When it happened, as it is written in the body. -/
  timestamp : String
  status : StatusCode
  message : String
  path : String
deriving DecidableEq

/-- The body. There is one message, and the fields of a request are never validated. -/
def Problem.toJson (problem : Problem) : Json :=
  .obj [
    ("timestamp", .str problem.timestamp),
    ("status", .num problem.status.code),
    ("error", .str problem.status.phrase),
    ("message", .arr [.str problem.message]),
    ("path", .str problem.path),
    ("validationErrors", .null)]

end DocPortal.Site
