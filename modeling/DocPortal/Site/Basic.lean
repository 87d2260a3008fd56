/-
The documentation site: what it serves, by path, and how it answers a
request.

A request goes through three layers. The outermost settles the request's
id: it replaces what the request says about it, so that every layer below
sees one id, and writes it into the response last, over anything below.
The next decides about origins and answers preflight requests. The
innermost is the table of paths. At the end the response gets its length,
and loses its body if the request was a HEAD.
-/
import DocPortal.Http.Cors
import DocPortal.RequestId
import DocPortal.Settings.Basic
import DocPortal.Site.Problem
import DocPortal.Viewer.Page

namespace DocPortal

open Http Viewer
open Log (Report)

/-- A documentation site. The page and the scripts are rendered once, when the site is made, and
are not rendered again for a request. -/
structure Site where
  config : Config
  assets : Assets
  /-- The header that carries a request's id. -/
  requestIdHeader : HeaderName
  page : String := Page.render config assets
  initializerScript : String := Script.render .initializer config
  configScript : String := Script.render .config config
  page_eq : page = Page.render config assets := by rfl
  initializerScript_eq : initializerScript = Script.render .initializer config := by rfl
  configScript_eq : configScript = Script.render .config config := by rfl
deriving DecidableEq

namespace Site

/-- What is rendered makes no difference between sites, as it is told by the rest. -/
theorem eq_iff {a b : Site} :
    a = b ↔ a.config = b.config ∧ a.assets = b.assets ∧ a.requestIdHeader = b.requestIdHeader := by
  constructor
  · rintro rfl
    exact ⟨rfl, rfl, rfl⟩
  · rintro ⟨hconfig, hassets, hheader⟩
    obtain ⟨config, assets, requestIdHeader, _, _, _, rfl, rfl, rfl⟩ := a
    obtain ⟨_, _, _, _, _, _, rfl, rfl, rfl⟩ := b
    subst hconfig hassets hheader
    rfl

/-- The site of a configuration and the settings it was made from, if the request id header can be
a header. -/
def ofSettings (config : Config) (settings : Settings) : Except ConfigError Site :=
  match HeaderName.ofText? settings.requestIdHeader with
  | some requestIdHeader => .ok { config, assets := settings.assets, requestIdHeader }
  | none => .error (.invalidValue Settings.requestIdHeaderVariable settings.requestIdHeader)

/-- The site of a service that was told nothing. -/
def stock : Site where
  config := .stock
  assets := .ofBase Assets.defaultBase
  requestIdHeader := ⟨Settings.defaultRequestIdHeader, by decide⟩

/-! ## Documents -/

/-- What can be asked for. -/
inductive Document where
  | health
  | page
  | initializerScript
  | configScript
  | optionBag
deriving DecidableEq, Repr

/-- The documents by path. -/
def documents : List (String × Document) := [
  ("/health", .health),
  ("/docs", .page),
  ("/swagger-ui/index.html", .page),
  ("/swagger-initializer.js", .initializerScript),
  ("/swagger-config.js", .configScript),
  ("/docs/swagger-config.json", .optionBag)]

/-- The document at a path, which must be the same character for character. -/
def documentAt (path : String) : Option Document :=
  documents.lookup path

def plainText : HeaderValue := .ofVisible "text/plain; charset=utf-8" (by decide)
def html : HeaderValue := .ofVisible "text/html; charset=utf-8" (by decide)
def javascript : HeaderValue := .ofVisible "application/javascript; charset=utf-8" (by decide)
def json : HeaderValue := .ofVisible "application/json" (by decide)

/-- A response with a body of a content type. -/
def content (status : StatusCode) (contentType : HeaderValue) (body : String) : Response where
  status
  headers := [(.contentType, contentType)]
  body

/-- The response with a document. -/
def document (site : Site) : Document → Response
  | .health => content .ok plainText "OK"
  | .page => content .ok html site.page
  | .initializerScript => content .ok javascript site.initializerScript
  | .configScript => content .ok javascript site.configScript
  | .optionBag => content .ok json site.config.optionBag.compact

theorem document_page (site : Site) :
    site.document .page = content .ok html (Page.render site.config site.assets) := by
  rw [document, site.page_eq]

theorem document_initializerScript (site : Site) :
    site.document .initializerScript =
      content .ok javascript (Script.render .initializer site.config) := by
  rw [document, site.initializerScript_eq]

theorem document_configScript (site : Site) :
    site.document .configScript = content .ok javascript (Script.render .config site.config) := by
  rw [document, site.configScript_eq]

/-- The target of the events about single requests. -/
def requestTarget : String := "docs_gateway::handlers"

/-- The event for serving a document to the request of an id; only the page has one. -/
def serving? (site : Site) (id : RequestId) : Document → Option Log.Event
  | .page => some ⟨.debug, requestTarget,
      "Serving docs page with " ++ toString site.config.sources.length ++
        " sources (request " ++ id.text ++ ")"⟩
  | _ => none

/-! ## Answers -/

/-- The answer to a request for a path without a document. -/
def notFound (site : Site) (now : String) (request : Request) : Answer where
  response := content .notFound json
    (Problem.toJson {
      timestamp := now, status := .notFound, message := "Resource not found",
      path := request.path }).compact
  events :=
    let id := ((request.headers.first? site.requestIdHeader).bind HeaderValue.visible?).getD "-"
    [⟨.debug, requestTarget,
      "No route for " ++ request.path ++ " (request " ++ id ++ ")"⟩]

/-- Whether a method is one that reads a document. -/
def isReading (method : Method) : Bool :=
  method = .get || method = .head

/-- The answer to a request by the table of paths. -/
def serve (site : Site) (id : RequestId) (now : String) (request : Request) : Answer :=
  match documentAt request.path with
  | none => site.notFound now request
  | some document =>
    if isReading request.method then
      { response := site.document document, events := (site.serving? id document).toList }
    else { response := { status := .methodNotAllowed } }

/-- Completes a response: its length, the methods of a document that were not used, and no body for
a HEAD. -/
def complete (request : Request) (response : Response) : Response :=
  let headers := response.headers.setIfAbsent .contentLength (.ofNat response.body.utf8ByteSize)
  let headers :=
    if (documentAt request.path).isSome ∧ ¬isReading request.method then
      headers.setIfAbsent .allow (.ofVisible "GET,HEAD" (by decide))
    else headers
  { response with
    headers
    body := if request.method = .head then "" else response.body }

/-- The id a request brings along, if its header can be read as text. -/
def incomingId (site : Site) (request : Request) : Option String :=
  (request.headers.first? site.requestIdHeader).bind HeaderValue.visible?

/-- The answer to a request, where `fresh` is the id for one without and `now` is the time. -/
def answer (site : Site) (rule : Cors.OriginRule) (fresh : Uuid) (now : String)
    (request : Request) : Answer :=
  let id := RequestId.resolve fresh (site.incomingId request)
  let request :=
    { request with headers := request.headers.set site.requestIdHeader id.headerValue }
  let answer := Cors.layer rule (site.serve id now) request
  let response :=
    { answer.response with
      headers := answer.response.headers.set site.requestIdHeader id.headerValue }
  { answer with response := complete request response }

end Site

end DocPortal
