/-
HTTP requests and responses.
-/
import DocPortal.Http.Header
import DocPortal.Http.Status

namespace DocPortal.Http

/-! ## Request targets -/

/-- What follows `://` in a target that starts with a scheme. -/
def afterScheme : List Char → Option (List Char)
  | ':' :: '/' :: '/' :: rest => some rest
  | c :: rest =>
    if c.isAlphanum || c ∈ ['+', '-', '.', '~'] then afterScheme rest else none
  | [] => none

/-- The path of a target, which is `/` for one of a scheme and a host alone and empty for a host
alone. -/
def pathChars (target : List Char) : List Char :=
  let beforeQuery := target.takeWhile fun c => c ≠ '?' && c ≠ '#'
  match beforeQuery with
  | '/' :: _ | ['*'] => beforeQuery
  | _ =>
    match afterScheme beforeQuery with
    | none => []
    | some afterHost =>
      match afterHost.dropWhile (· ≠ '/') with
      | [] => ['/']
      | path => path

/-! ## Messages -/

/-- A request without its body, which the service never reads. -/
structure Request where
  method : Method := .get
  target : String
  headers : Headers := []
deriving DecidableEq

/-- The path of a request as it is written, without the query. -/
def Request.path (request : Request) : String :=
  String.ofList (pathChars request.target.toList)

structure Response where
  status : StatusCode
  headers : Headers := []
  body : String := ""
deriving DecidableEq

end DocPortal.Http
