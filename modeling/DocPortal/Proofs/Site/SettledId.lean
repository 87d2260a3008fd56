/-
One id for a request. The id is what the first value of the header says,
if that is a UUID, and new otherwise; the response carries this id and no
other, every event names it, and nothing on the way from the header to the
response can miss it (`answer_names_one_id`).
-/
import DocPortal.Proofs.Http.Header
import DocPortal.Proofs.Site.Layers

namespace DocPortal.Site

open Http Http.Cors

/-! ## Incoming ids -/

/-- The first value that a request has for the id is visible throughout, and has this text. -/
def Brings (site : Site) (request : Request) (text : String) : Prop :=
  ∃ value, (request.headers.values site.requestIdHeader).head? = some value ∧
    text.toList.all HeaderValue.isVisibleChar = true ∧
    value.bytes = HeaderValue.encode text.toList

theorem incomingId_eq_some_iff {site : Site} {request : Request} {text : String} :
    site.incomingId request = some text ↔ site.Brings request text := by
  simp only [incomingId, Option.bind_eq_some_iff, Headers.first?,
    HeaderValue.visible?_eq_some_iff, Brings]

/-- The id that a request has to be known by: the one it brings, and a new one if it brings none. -/
structure IsIdOf (site : Site) (fresh : Uuid) (request : Request) (id : RequestId) : Prop where
  kept : ∀ text, site.Brings request text → Uuid.isWritten (Text.trim text).toList = true →
    id.text = Text.trim text
  replaced : (∀ text, site.Brings request text →
      ¬ Uuid.isWritten (Text.trim text).toList = true) →
    id.text = fresh.text ∧ Uuid.IsPlain id.text

theorem isIdOf_resolve (site : Site) (fresh : Uuid) (request : Request) :
    site.IsIdOf fresh request (RequestId.resolve fresh (site.incomingId request)) := by
  constructor
  · intro text hbrings hwritten
    rw [incomingId_eq_some_iff.2 hbrings]
    exact RequestId.text_resolve_of_written hwritten fresh
  · intro hnone
    rw [RequestId.resolve_of_not_written fun text h => hnone text (incomingId_eq_some_iff.1 h)]
    exact ⟨rfl, fresh.isPlain_text⟩

/-! ## Events -/

/-- What is reported of a request, apart from its id. -/
def remarks (site : Site) (request : Request) : List String :=
  if request.method = .options then []
  else
    match documentAt request.path with
    | none => ["No route for " ++ request.path]
    | some document =>
      if document = .page ∧ isReading request.method = true then
        ["Serving docs page with " ++ toString site.config.sources.length ++ " sources"]
      else []

/-- The event for a remark on the request of an id. -/
def remarkOn (id : RequestId) (remark : String) : Log.Event :=
  ⟨.debug, requestTarget, remark ++ " (request " ++ id.text ++ ")"⟩

theorem first?_settled (site : Site) (id : RequestId) (request : Request) :
    (site.settled id request).headers.first? site.requestIdHeader = some id.headerValue := by
  rw [settled, Headers.first?, Headers.values_set_self, List.head?_cons]

theorem events_notFound_settled (site : Site) (id : RequestId) (now : String) (request : Request) :
    (site.notFound now (site.settled id request)).events =
      [remarkOn id ("No route for " ++ request.path)] := by
  -- The settled header is read as text again, so nothing is left for the dash.
  rw [notFound, first?_settled, Option.bind_some, id.visible?_headerValue]
  rfl

theorem serving?_page (site : Site) (id : RequestId) :
    site.serving? id .page = some (remarkOn id
      ("Serving docs page with " ++ toString site.config.sources.length ++ " sources")) := by
  have hwords (start : String) : start ++ " sources" ++ " (request " =
      start ++ " sources (request " := by
    rw [String.append_assoc]
    rfl
  rw [serving?, remarkOn, hwords]

theorem events_layer_settled (site : Site) (rule : OriginRule) (id : RequestId) (now : String)
    (request : Request) :
    (layer rule (site.serve id now) (site.settled id request)).events =
      (site.remarks request).map (remarkOn id) := by
  have hmethod : (site.settled id request).method = request.method := rfl
  have hpath : (site.settled id request).path = request.path := rfl
  unfold layer remarks
  rw [hmethod]
  split
  · rfl
  · unfold serve
    rw [hmethod, hpath]
    cases documentAt request.path with
    | none => exact events_notFound_settled site id now request
    | some document =>
      dsimp only
      cases hreading : isReading request.method with
      | false => simp
      | true =>
        cases document with
        | page => simp [serving?_page]
        | health | initializerScript | configScript | optionBag => simp [serving?]

/-! ## Responses -/

theorem values_complete_of_ne_nil (request : Request) {response : Response} {name : HeaderName}
    (h : response.headers.values name ≠ []) :
    (complete request response).headers.values name = response.headers.values name := by
  have hlength := Headers.values_setIfAbsent_of_ne_nil h .contentLength
    (.ofNat response.body.utf8ByteSize)
  unfold complete
  dsimp only
  split
  · rw [Headers.values_setIfAbsent_of_ne_nil (hlength ▸ h), hlength]
  · exact hlength

/-- The id is written over whatever the layers below said, and what completes a response leaves
it, also where the id has the header of the length or of the methods. -/
theorem values_id_answer (site : Site) (rule : OriginRule) (fresh : Uuid) (now : String)
    (request : Request) :
    (site.answer rule fresh now request).response.headers.values site.requestIdHeader =
      [(RequestId.resolve fresh (site.incomingId request)).headerValue] := by
  unfold answer
  dsimp only
  rw [values_complete_of_ne_nil]
  · exact Headers.values_set_self ..
  · rw [Headers.values_set_self]
    exact List.cons_ne_nil _ _

theorem events_answer (site : Site) (rule : OriginRule) (fresh : Uuid) (now : String)
    (request : Request) :
    (site.answer rule fresh now request).events =
      (site.remarks request).map
        (remarkOn (RequestId.resolve fresh (site.incomingId request))) := by
  unfold answer
  dsimp only
  rw [← settled, events_layer_settled]

/-- An answer that is under one id. -/
structure IsUnder (site : Site) (request : Request) (id : RequestId) (answer : Answer) : Prop where
  values : answer.response.headers.values site.requestIdHeader = [id.headerValue]
  events : answer.events = (site.remarks request).map (remarkOn id)

/-- **A request has one id, the same everywhere**: a list of origins without the wildcard makes a
rule, and under it every request, whatever its method, path and fields, has one id. It is the one
the request brings, or a new one; it is a header value, the response has it and no other value
for the header, and every event about the request names it, never a dash. And whatever the page
would answer to a request without an id, no request is answered so. -/
theorem answer_names_one_id {site : Site} {origins : List String} (hwildcard : "*" ∉ origins) :
    ∃ rule, (OriginRule.ofOrigins origins).result = .ok rule ∧
      ∀ (fresh : Uuid) (now : String) (request : Request), ∃ id : RequestId,
        site.IsIdOf fresh request id ∧
        HeaderValue.ofText? id.text = some id.headerValue ∧ id.text ≠ "-" ∧
        site.IsUnder request id (site.answer rule fresh now request) ∧
        ∀ idless, site.layered rule idless fresh now request =
          site.answer rule fresh now request := by
  obtain ⟨rule, hrule⟩ := OriginRule.exists_ofOrigins_of_not_wildcard hwildcard
  refine ⟨rule, hrule, ?_⟩
  intro fresh now request
  have hdash : Uuid.isWritten "-".toList = false := by decide
  refine ⟨RequestId.resolve fresh (site.incomingId request), isIdOf_resolve site fresh request,
    RequestId.ofText?_text _, RequestId.text_ne hdash _, ?_, ?_⟩
  · exact ⟨values_id_answer site rule fresh now request, events_answer site rule fresh now request⟩
  · intro idless
    exact layered_eq_answer site rule idless fresh now request

/-- A request for a path without a document that brings an id in braces, between blanks, and then
another text. -/
def bracedRequest : Request where
  target := "/nope?x"
  headers := [
    (stock.requestIdHeader,
      .ofVisible " \x7b1B4E28BA-2fa1-11d2-883f-0016d3cca427\x7d\t" (by decide)),
    (stock.requestIdHeader, .ofVisible "other" (by decide))]

theorem answer_names_one_id_bracedRequest :
    ∃ rule, (OriginRule.ofOrigins ["https://docs.example.com"]).result = .ok rule ∧
      ∀ fresh now, ∃ id : RequestId, id.text = "\x7b1B4E28BA-2fa1-11d2-883f-0016d3cca427\x7d" ∧
        (stock.answer rule fresh now bracedRequest).response.headers.values stock.requestIdHeader =
          [id.headerValue] ∧
        (stock.answer rule fresh now bracedRequest).events =
          [remarkOn id "No route for /nope"] := by
  have hwildcard : "*" ∉ ["https://docs.example.com"] := by decide
  obtain ⟨rule, hrule, hanswers⟩ := answer_names_one_id hwildcard
  refine ⟨rule, hrule, ?_⟩
  intro fresh now
  obtain ⟨id, hid, -, -, hunder, -⟩ := hanswers fresh now bracedRequest
  have hbrings : stock.Brings bracedRequest
      " \x7b1B4E28BA-2fa1-11d2-883f-0016d3cca427\x7d\t" := ⟨_, rfl, by decide, rfl⟩
  have htrim : Text.trim " \x7b1B4E28BA-2fa1-11d2-883f-0016d3cca427\x7d\t" =
      "\x7b1B4E28BA-2fa1-11d2-883f-0016d3cca427\x7d" := by decide
  have hremarks : stock.remarks bracedRequest = ["No route for /nope"] := by decide
  refine ⟨id, ?_, hunder.values, ?_⟩
  · rw [hid.kept _ hbrings (by decide), htrim]
  · rw [hunder.events, hremarks]
    rfl

end DocPortal.Site
