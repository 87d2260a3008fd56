/-
The layers of a site, with what could be missing between them. Here an id
is any text: it might be no header value, and then the headers would be
left as they came; and it goes beside the request, where the page might
find none. None of this happens. The layers in their order give the answer
of the site, whatever the page would answer to a request without an id
(`layered_eq_answer`).
-/
import DocPortal.Proofs.RequestId
import DocPortal.Proofs.Site.Answer

namespace DocPortal.Site

open Http Http.Cors

/-- A request on its way through the layers, with the id that goes beside it, if a layer has put one
there. -/
structure Passing where
  request : Request
  id? : Option String

/-- The text that a request is known by. -/
def idText (fresh : Uuid) (incoming : Option String) : String :=
  ((incoming.map Text.trim).filter fun text => Uuid.isWritten text.toList).getD fresh.text

/-- The fields with a value for a name in place of those it had, if there is a value. -/
def replaced (headers : Headers) (name : HeaderName) : Option HeaderValue → Headers
  | some value => headers.set name value
  | none => headers

/-- The layer that settles the id, for what is below it and for the response. -/
def settleId (site : Site) (fresh : Uuid) (below : Passing → Answer) (passing : Passing) : Answer :=
  let request := passing.request
  let text := idText fresh (site.incomingId request)
  let value? := HeaderValue.ofText? text
  let headers := replaced request.headers site.requestIdHeader value?
  let answer := below { request := { request with headers }, id? := some text }
  { answer with
    response.headers := replaced answer.response.headers site.requestIdHeader value? }

/-- The layer that decides about origins. What goes beside a request passes through. -/
def shareOrigins (rule : OriginRule) (below : Passing → Answer) (passing : Passing) : Answer :=
  layer rule (fun request => below { passing with request }) passing.request

/-- The page for a request that has an id beside it. -/
def pageFor (site : Site) (text : String) : Answer where
  response := site.document .page
  events := [⟨.debug, requestTarget,
    "Serving docs page with " ++ toString site.config.sources.length ++
      " sources (request " ++ text ++ ")"⟩]

/-- The table of paths. Its page answers `idless` to a request that has no id beside it. -/
def table (site : Site) (idless : Answer) (now : String) (passing : Passing) : Answer :=
  match documentAt passing.request.path with
  | none => site.notFound now passing.request
  | some document =>
    if isReading passing.request.method then
      if document = .page then (passing.id?.map site.pageFor).getD idless
      else { response := site.document document }
    else { response := { status := .methodNotAllowed } }

/-- The answer to a request that comes from outside, where nothing goes beside it yet. -/
def layered (site : Site) (rule : OriginRule) (idless : Answer) (fresh : Uuid) (now : String)
    (request : Request) : Answer :=
  let answer := site.settleId fresh (shareOrigins rule (site.table idless now)) ⟨request, none⟩
  { answer with response := complete request answer.response }

/-! ## Nothing is missing -/

theorem idText_eq (fresh : Uuid) (incoming : Option String) :
    idText fresh incoming = (RequestId.resolve fresh incoming).text := by
  cases incoming with
  | none => rfl
  | some text =>
    unfold idText RequestId.resolve RequestId.ofText?
    simp only [Option.map_some, Option.bind_some, Option.filter_some]
    split
    · rfl
    · rfl

/-- A table that finds an id beside the request never gives the answer for none. -/
theorem table_of_id (site : Site) (idless : Answer) (now : String) (request : Request)
    (id : RequestId) :
    site.table idless now ⟨request, some id.text⟩ = site.serve id now request := by
  unfold table serve
  dsimp only
  cases documentAt request.path with
  | none => rfl
  | some document =>
    dsimp only
    split
    · cases document with
      | page => rfl
      | health | initializerScript | configScript | optionBag => rfl
    · rfl

theorem layered_eq_answer (site : Site) (rule : OriginRule) (idless : Answer) (fresh : Uuid)
    (now : String) (request : Request) :
    site.layered rule idless fresh now request = site.answer rule fresh now request := by
  unfold layered settleId answer shareOrigins
  dsimp only
  rw [idText_eq, RequestId.ofText?_text]
  simp only [table_of_id]
  rfl

end DocPortal.Site
