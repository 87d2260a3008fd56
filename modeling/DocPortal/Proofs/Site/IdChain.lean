/-
Ids on their way through several gateways. What one gateway has settled as
the id of a request, kept or new, the next one keeps, whatever blanks it
comes with; so the id a request has behind the first gateway is the one it
has behind the last.
-/
import DocPortal.Proofs.Site.SettledId
import DocPortal.Proofs.Uuid

namespace DocPortal

open Http (HeaderValue Request)
open Http.HeaderValue (encode)
open Uuid (IsUuidText readsBytes)

namespace RequestId

/-! ## One gateway -/

/-- An id is made of characters one can see, so it is no blank. -/
theorem graphic_of_mem (id : RequestId) {c : Char} (hc : c ∈ id.text.toList) :
    0x21 ≤ c.toNat ∧ c.toNat ≤ 0x7E := by
  have hforms : ∀ form ∈ Uuid.forms, ' ' ∉ form.toList ∧ '\t' ∉ form.toList := by decide
  have hwritten := id.isWritten
  rw [Uuid.isWritten, List.any_eq_true] at hwritten
  obtain ⟨form, hform, hfits⟩ := hwritten
  obtain ⟨hspace, htab⟩ := hforms form hform
  have hspace := Uuid.not_mem_of_fits (by decide) (by decide) hspace hfits
  have htab := Uuid.not_mem_of_fits (by decide) (by decide) htab hfits
  have hvisible := List.all_eq_true.1 id.all_isVisibleChar c hc
  simp only [HeaderValue.isVisibleChar, Bool.or_eq_true, Bool.and_eq_true,
    decide_eq_true_eq] at hvisible
  rcases hvisible with rfl | ⟨hlow, hhigh⟩
  · exact absurd hc htab
  · have hne : c.toNat ≠ 0x20 := by
      intro hcode
      have hc' : c = ' ' := Char.toNat_inj.1 hcode
      exact hspace (hc' ▸ hc)
    omega

theorem trim_text (id : RequestId) : Text.trim id.text = id.text := by
  refine (Text.isTrimmed_of_forall fun c hc => ?_).trim_eq
  obtain ⟨hlow, hhigh⟩ := id.graphic_of_mem hc
  exact Text.isBlankChar_eq_false_of_visible (by omega) (by omega)

theorem text_inj {a b : RequestId} (h : a.text = b.text) : a = b := by
  cases a
  cases b
  cases h
  rfl

/-- An id is kept, whatever blanks are around it. -/
theorem resolve_padded {id : RequestId} {padded : String} (h : Text.IsPadded id.text padded)
    (fresh : Uuid) : resolve fresh (some padded) = id := by
  have htrim : Text.trim padded = id.text := h.trim_eq.trans id.trim_text
  have hwritten : Uuid.isWritten (Text.trim padded).toList = true := by
    rw [htrim]
    exact id.isWritten
  exact text_inj ((text_resolve_of_written hwritten fresh).trans htrim)

/-- A text is kept exactly if it is a UUID, since any other is replaced by one. -/
theorem text_resolve_eq_trim_iff {fresh : Uuid} {text : String} :
    (resolve fresh (some text)).text = Text.trim text ↔
      IsUuidText (Text.trim text).toList := by
  rw [← Uuid.isWritten_iff]
  constructor
  · intro h
    rw [← h]
    exact (resolve fresh (some text)).isWritten
  · exact fun h => text_resolve_of_written h fresh

/-! ## Gateways that are handed a text -/

/-- A gateway, with the id it has for requests that bring none, and the blanks that the text of an
id comes to it with. -/
structure Hop where
  fresh : Uuid
  before : String
  after : String
  before_blank : Text.isBlank before = true
  after_blank : Text.isBlank after = true

/-- The id that the gateway settles for a request that comes with one. -/
def Hop.settle (hop : Hop) (id : RequestId) : RequestId :=
  resolve hop.fresh (some (hop.before ++ id.text ++ hop.after))

theorem Hop.settle_eq (hop : Hop) (id : RequestId) : hop.settle id = id :=
  resolve_padded ⟨hop.before, hop.after, hop.before_blank, hop.after_blank, rfl⟩ hop.fresh

theorem settle_all (hops : List Hop) (id : RequestId) :
    hops.foldl (fun id hop => hop.settle id) id = id := by
  induction hops with
  | nil => rfl
  | cons hop hops ih => rw [List.foldl_cons, hop.settle_eq, ih]

end RequestId

/-! ## Sites that are handed a request -/

namespace Site

/-- The ids that sites in a row, each with its new id, settle for a request: each is handed the
request as the one before has settled it. -/
def settledIds : List (Site × Uuid) → Request → List RequestId
  | [], _ => []
  | (site, fresh) :: rest, request =>
    let id := RequestId.resolve fresh (site.incomingId request)
    id :: settledIds rest (site.settled id request)

/-- The header that another site reads has an id which one site has settled. -/
theorem incomingId_settled {site other : Site} (h : other.requestIdHeader = site.requestIdHeader)
    (id : RequestId) (request : Request) :
    other.incomingId (site.settled id request) = some id.text := by
  rw [incomingId, h, first?_settled, Option.bind_some, id.visible?_headerValue]

theorem resolve_incomingId_settled {site other : Site}
    (h : other.requestIdHeader = site.requestIdHeader) (fresh : Uuid) (id : RequestId)
    (request : Request) :
    RequestId.resolve fresh (other.incomingId (site.settled id request)) = id := by
  rw [incomingId_settled h]
  exact RequestId.resolve_padded (Text.IsPadded.refl id.text) fresh

theorem settledIds_settled {site : Site} {rest : List (Site × Uuid)}
    (h : ∀ gateway ∈ rest, gateway.1.requestIdHeader = site.requestIdHeader) (id : RequestId)
    (request : Request) :
    settledIds rest (site.settled id request) = List.replicate rest.length id := by
  induction rest generalizing site request with
  | nil => rfl
  | cons gateway rest ih =>
    obtain ⟨other, fresh⟩ := gateway
    obtain ⟨hother, hrest⟩ := List.forall_mem_cons.1 h
    rw [settledIds, resolve_incomingId_settled hother, List.length_cons, List.replicate_succ]
    rw [ih fun gateway hgateway => (hrest gateway hgateway).trans hother.symm]

theorem settledIds_cons {site : Site} {rest : List (Site × Uuid)}
    (h : ∀ gateway ∈ rest, gateway.1.requestIdHeader = site.requestIdHeader) (fresh : Uuid)
    (request : Request) :
    settledIds ((site, fresh) :: rest) request =
      List.replicate (rest.length + 1) (RequestId.resolve fresh (site.incomingId request)) := by
  rw [settledIds, settledIds_settled h, List.replicate_succ]

end Site

namespace RequestId

/-- What holds of the id that is settled for what a request brings. -/
structure IsStable (fresh : Uuid) (incoming : Option String) (id : RequestId) : Prop where
  kept : ∀ text, incoming = some text →
    (id.text = Text.trim text ↔ IsUuidText (Text.trim text).toList)
  kept_bytes : ∀ text, incoming = some text →
    (id.text = Text.trim text ↔ readsBytes (encode (Text.trim text).toList) = true)
  replaced : (∀ text, incoming = some text → ¬ IsUuidText (Text.trim text).toList) →
    id.text = fresh.text ∧ Uuid.IsPlain id.text
  graphic : ∀ c ∈ id.text.toList, 0x21 ≤ c.toNat ∧ c.toNat ≤ 0x7E
  legal : HeaderValue.ofText? id.text = some id.headerValue
  again : ∀ otherFresh padded, Text.IsPadded id.text padded →
    resolve otherFresh (some padded) = id
  along_hops : ∀ hops : List Hop, hops.foldl (fun id hop => hop.settle id) id = id
  along_sites : ∀ (site : Site) (request : Request) (rest : List (Site × Uuid)),
    site.incomingId request = incoming →
    (∀ gateway ∈ rest, gateway.1.requestIdHeader = site.requestIdHeader) →
    Site.settledIds ((site, fresh) :: rest) request = List.replicate (rest.length + 1) id

/-- **An id is kept exactly if the text without its blanks is a UUID of the grammar, and it is
that text; any other is replaced by a plain UUID. Kept or new, the id is visible throughout, is a
header value, and stays the same however often it is settled again.** -/
theorem resolve_isStable (fresh : Uuid) (incoming : Option String) :
    IsStable fresh incoming (resolve fresh incoming) where
  kept := by
    rintro text rfl
    exact text_resolve_eq_trim_iff
  kept_bytes := by
    rintro text rfl
    rw [Uuid.readsBytes_encode]
    exact text_resolve_eq_trim_iff
  replaced := by
    intro hnone
    simp only [← Uuid.isWritten_iff] at hnone
    rw [resolve_of_not_written hnone]
    exact ⟨rfl, fresh.isPlain_text⟩
  graphic := fun _ hc => graphic_of_mem _ hc
  legal := ofText?_text _
  again := fun otherFresh _ h => resolve_padded h otherFresh
  along_hops := fun hops => settle_all hops _
  along_sites := by
    rintro site request rest rfl hrest
    exact Site.settledIds_cons hrest fresh request

/-- A UUID behind its scheme, with blanks around it, goes on as it is; the right number of bytes
alone is no UUID. -/
theorem resolve_isStable_paddedUrn :
    (resolve ⟨5⟩ (some "\tUrn:UUID:1B4E28BA-2fa1-11d2-883f-0016d3cca427 ")).text =
        "Urn:UUID:1B4E28BA-2fa1-11d2-883f-0016d3cca427" ∧
      resolve ⟨7⟩ (some "Urn:UUID:1B4E28BA-2fa1-11d2-883f-0016d3cca427\u3000") =
        resolve ⟨5⟩ (some "\tUrn:UUID:1B4E28BA-2fa1-11d2-883f-0016d3cca427 ") ∧
      (encode "ÄÄÄÄÄÄÄÄÄÄÄÄÄÄÄÄ".toList).length = 32 ∧
      (resolve ⟨5⟩ (some "ÄÄÄÄÄÄÄÄÄÄÄÄÄÄÄÄ")).text =
        "00000000-0000-0000-0000-000000000005" := by
  have hurn := resolve_isStable ⟨5⟩ (some "\tUrn:UUID:1B4E28BA-2fa1-11d2-883f-0016d3cca427 ")
  have hletters := resolve_isStable ⟨5⟩ (some "ÄÄÄÄÄÄÄÄÄÄÄÄÄÄÄÄ")
  have htext : (resolve ⟨5⟩ (some "\tUrn:UUID:1B4E28BA-2fa1-11d2-883f-0016d3cca427 ")).text =
      "Urn:UUID:1B4E28BA-2fa1-11d2-883f-0016d3cca427" :=
    ((hurn.kept _ rfl).2 (Uuid.isWritten_iff.1 (by decide))).trans (by decide)
  refine ⟨htext, hurn.again ⟨7⟩ _ ⟨"", "\u3000", rfl, by decide, ?_⟩, by decide, ?_⟩
  · rw [htext]
    decide
  · refine (hletters.replaced ?_).1.trans (by decide)
    rintro text ⟨⟩
    rw [← Uuid.isWritten_iff]
    decide

end RequestId

end DocPortal
