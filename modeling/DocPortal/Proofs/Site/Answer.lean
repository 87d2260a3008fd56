/-
Answers, layer by layer: which fields the layers around the table of paths
leave as they are, and what an answer holds for a document that is read.
-/
import DocPortal.Proofs.Http.Cors
import DocPortal.Site.Basic

namespace DocPortal.Site

open Http Http.Cors

/-! ## Fields -/

theorem values_complete_other (request : Request) (response : Response) {name : HeaderName}
    (hlength : name ≠ .contentLength) (hallow : name ≠ .allow) :
    (complete request response).headers.values name = response.headers.values name := by
  unfold complete
  dsimp only
  split
  · rw [Headers.values_setIfAbsent_other _ _ hallow, Headers.values_setIfAbsent_other _ _ hlength]
  · rw [Headers.values_setIfAbsent_other _ _ hlength]

/-- The table of paths sets the content type and no other field. -/
theorem values_serve_other (site : Site) (id : RequestId) (now : String) (request : Request)
    {name : HeaderName} (hname : name ≠ .contentType) :
    (site.serve id now request).response.headers.values name = [] := by
  have hcontent (status : StatusCode) (type : HeaderValue) (body : String) :
      (content status type body).headers.values name = [] := by
    simp [content, Headers.values, Ne.symm hname]
  unfold serve
  split
  · exact hcontent ..
  · next document _ =>
    split
    · cases document with
      | health | page | initializerScript | configScript | optionBag => exact hcontent ..
    · rfl

/-- The request as the layers below see it, with its id settled. -/
def settled (site : Site) (id : RequestId) (request : Request) : Request :=
  { request with headers := request.headers.set site.requestIdHeader id.headerValue }

/-- A field that is not about the id, the length or the methods comes from the layer that decides
about origins. -/
theorem values_answer_other (site : Site) (rule : OriginRule) (fresh : Uuid) (now : String)
    (request : Request) {name : HeaderName} (hid : name ≠ site.requestIdHeader)
    (hlength : name ≠ .contentLength) (hallow : name ≠ .allow) :
    let id := RequestId.resolve fresh (site.incomingId request)
    (site.answer rule fresh now request).response.headers.values name =
      (layer rule (site.serve id now) (site.settled id request)).response.headers.values name := by
  unfold answer
  dsimp only
  rw [values_complete_other _ _ hlength hallow, Headers.values_set_other _ _ hid]
  rfl

/-! ## Bodies -/

theorem body_answer_of_not_head (site : Site) (rule : OriginRule) (fresh : Uuid) (now : String)
    {request : Request} (hhead : request.method ≠ .head) :
    let id := RequestId.resolve fresh (site.incomingId request)
    (site.answer rule fresh now request).response.body =
      (layer rule (site.serve id now) (site.settled id request)).response.body := by
  unfold answer complete
  dsimp only
  rw [if_neg hhead]
  rfl

theorem response_serve_of_reading (site : Site) (id : RequestId) (now : String)
    {request : Request} {document : Document} (hdocument : documentAt request.path = some document)
    (hreading : isReading request.method = true) :
    (site.serve id now request).response = site.document document := by
  rw [serve, hdocument]
  dsimp only
  rw [if_pos hreading]

/-- A GET is answered with the document at its path. -/
theorem body_answer_of_get (site : Site) (rule : OriginRule) (fresh : Uuid) (now : String)
    {request : Request} {document : Document} (hget : request.method = .get)
    (hdocument : documentAt request.path = some document) :
    (site.answer rule fresh now request).response.body = (site.document document).body := by
  have hhead : request.method ≠ .head := by rw [hget]; decide
  rw [body_answer_of_not_head site rule fresh now hhead]
  generalize RequestId.resolve fresh (site.incomingId request) = id
  have hoptions : (site.settled id request).method ≠ .options := by rw [settled, hget]; decide
  have hreading : isReading (site.settled id request).method = true := by
    rw [settled, hget]; decide
  have hsettled : documentAt (site.settled id request).path = some document := hdocument
  rw [body_layer_of_not_options rule hoptions,
    response_serve_of_reading site id now hsettled hreading]

end DocPortal.Site
