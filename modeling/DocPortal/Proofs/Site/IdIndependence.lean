/-
What the id of a request does not touch. Requests that differ only in the
fields of the id are answered alike, layer by layer, up to the field of
the id in the response, the time in the body for a path without a document
and the length of that body; and the same is reported of them, each under
its own id (`answer_same_apart_from_id`). The two fields that the layer
for origins reads back into responses must not be the id's.
-/
import DocPortal.Proofs.Site.SettledId

namespace DocPortal.Site

open Http Http.Cors

/-- Requests that are the same but for the fields of a name. -/
structure SameRequests (name : HeaderName) (request other : Request) : Prop where
  method : request.method = other.method
  target : request.target = other.target
  values : ∀ field, field ≠ name → request.headers.values field = other.headers.values field

/-- Texts that are the same but for a time in them. -/
def SameButTime (now otherNow : String) (text other : String) : Prop :=
  ∃ before after, text = before ++ Json.quoted now ++ after ∧
    other = before ++ Json.quoted otherNow ++ after

/-- Responses that are the same but for the fields of a name, and for the time and the length of a
body that says nothing was found. -/
structure SameResponses (name : HeaderName) (now otherNow : String)
    (response other : Response) : Prop where
  status : response.status = other.status
  values : ∀ field, field ≠ name → (response.status = .notFound → field ≠ .contentLength) →
    response.headers.values field = other.headers.values field
  body : response.body = other.body ∨
    response.status = .notFound ∧ SameButTime now otherNow response.body other.body

namespace SameRequests

variable {name : HeaderName} {request other : Request} (h : SameRequests name request other)
include h

theorem path : request.path = other.path := by
  rw [Request.path, h.target, ← Request.path]

theorem first? {field : HeaderName} (hfield : field ≠ name) :
    request.headers.first? field = other.headers.first? field := by
  rw [Headers.first?, h.values field hfield, ← Headers.first?]

theorem remarks (site : Site) : site.remarks request = site.remarks other := by
  rw [Site.remarks, h.method, h.path, ← Site.remarks]

end SameRequests

theorem SameRequests.settled {site : Site} {request other : Request}
    (h : SameRequests site.requestIdHeader request other) (id otherId : RequestId) :
    SameRequests site.requestIdHeader (site.settled id request) (site.settled otherId other) := by
  refine ⟨h.method, h.target, ?_⟩
  intro field hfield
  rw [Site.settled, Site.settled, Headers.values_set_other _ _ hfield,
    Headers.values_set_other _ _ hfield, h.values field hfield]

/-! ## Layers -/

theorem SameResponses.refl (name : HeaderName) (now otherNow : String) (response : Response) :
    SameResponses name now otherNow response response :=
  ⟨rfl, fun _ _ _ => rfl, .inl rfl⟩

theorem compact_toJson (problem : Problem) :
    problem.toJson.compact = "\x7b" ++ Json.quoted "timestamp" ++ ":" ++
      Json.quoted problem.timestamp ++ ("," ++ Json.compactMembers [
        ("status", .num problem.status.code), ("error", .str problem.status.phrase),
        ("message", .arr [.str problem.message]), ("path", .str problem.path),
        ("validationErrors", .null)] ++ "\x7d") := by
  have hfirst (name : String) (value : Json) (member : String × Json)
      (rest : List (String × Json)) :
      Json.compactMembers ((name, value) :: member :: rest) =
        Json.quoted name ++ ":" ++ value.compact ++ "," ++
          Json.compactMembers (member :: rest) := by
    rw [Json.compactMembers]
    simp
  have htime : (Json.str problem.timestamp).compact = Json.quoted problem.timestamp := by
    rw [Json.compact]
  rw [Problem.toJson, Json.compact, hfirst, htime]
  simp only [String.append_assoc]

theorem sameButTime_toJson {problem other : Problem} (hstatus : problem.status = other.status)
    (hmessage : problem.message = other.message) (hpath : problem.path = other.path) :
    SameButTime problem.timestamp other.timestamp problem.toJson.compact other.toJson.compact := by
  rw [compact_toJson, compact_toJson, hstatus, hmessage, hpath]
  exact ⟨_, _, rfl, rfl⟩

theorem response_notFound (site : Site) (now : String) (request : Request) :
    (site.notFound now request).response = content .notFound json
      (Problem.mk now .notFound "Resource not found" request.path).toJson.compact := rfl

section Answers

variable {site : Site} {name : HeaderName} {now otherNow : String} {request other : Request}
  {response otherResponse : Response}

/-- The table of paths looks at the method and the path alone. -/
theorem sameResponses_serve (hmethod : request.method = other.method)
    (hpath : request.path = other.path) (id otherId : RequestId) :
    SameResponses name now otherNow (site.serve id now request).response
      (site.serve otherId otherNow other).response := by
  unfold serve
  rw [hmethod, hpath]
  cases documentAt other.path with
  | none =>
    dsimp only
    rw [response_notFound, response_notFound, content, content]
    exact ⟨rfl, fun _ _ _ => rfl, .inr ⟨rfl, sameButTime_toJson rfl rfl hpath⟩⟩
  | some document =>
    dsimp only
    split
    · exact .refl ..
    · exact .refl ..

theorem commonHeaders_congr (rule : OriginRule)
    (horigin : request.headers.first? .origin = other.headers.first? .origin) :
    commonHeaders rule request = commonHeaders rule other := by
  rw [commonHeaders, horigin, ← commonHeaders]

theorem sameResponses_layer (rule : OriginRule) {handle otherHandle : Request → Answer}
    (hmethod : request.method = other.method)
    (horigin : request.headers.first? .origin = other.headers.first? .origin)
    (hasked : request.headers.first? .requestHeaders = other.headers.first? .requestHeaders)
    (h : SameResponses name now otherNow (handle request).response (otherHandle other).response) :
    SameResponses name now otherNow (layer rule handle request).response
      (layer rule otherHandle other).response := by
  have hcommon := commonHeaders_congr rule horigin
  unfold layer
  rw [hmethod]
  split
  · have hpreflight : preflight rule request = preflight rule other := by
      rw [preflight, hcommon, hasked, ← preflight]
    dsimp only
    rw [hpreflight]
    exact .refl ..
  · refine ⟨h.status, ?_, h.body⟩
    intro field hname hlength
    dsimp only
    rw [Headers.values_append, Headers.values_append, h.values field hname hlength, hcommon]

theorem SameResponses.set (h : SameResponses name now otherNow response otherResponse)
    (value otherValue : HeaderValue) :
    SameResponses name now otherNow
      { response with headers := response.headers.set name value }
      { otherResponse with headers := otherResponse.headers.set name otherValue } := by
  refine ⟨h.status, ?_, h.body⟩
  intro field hname hlength
  dsimp only
  rw [Headers.values_set_other _ _ hname, Headers.values_set_other _ _ hname,
    h.values field hname hlength]

theorem SameResponses.complete (h : SameResponses name now otherNow response otherResponse)
    (hmethod : request.method = other.method) (hpath : request.path = other.path) :
    SameResponses name now otherNow (complete request response)
      (complete other otherResponse) := by
  refine ⟨h.status, ?_, ?_⟩
  · intro field hname hlength
    -- The bodies can differ, and so their lengths, but only where no length is compared.
    have hvalue (hfield : field = .contentLength) :
        HeaderValue.ofNat response.body.utf8ByteSize =
          .ofNat otherResponse.body.utf8ByteSize := by
      rcases h.body with hbody | ⟨hstatus, -⟩
      · rw [hbody]
      · exact absurd hfield (hlength hstatus)
    have hcompleted := Headers.values_setIfAbsent_congr (h.values field hname hlength) hvalue
    unfold Site.complete
    dsimp only
    rw [hmethod, hpath]
    split
    · exact Headers.values_setIfAbsent_congr hcompleted fun _ => rfl
    · exact hcompleted
  · unfold Site.complete
    dsimp only
    rw [hmethod]
    split
    · exact .inl rfl
    · exact h.body

end Answers

/-! ## Answers -/

theorem sameResponses_answer {site : Site} {request other : Request}
    (h : SameRequests site.requestIdHeader request other) (horigin : site.requestIdHeader ≠ .origin)
    (hasked : site.requestIdHeader ≠ .requestHeaders) (rule : OriginRule)
    (fresh otherFresh : Uuid) (now otherNow : String) :
    SameResponses site.requestIdHeader now otherNow (site.answer rule fresh now request).response
      (site.answer rule otherFresh otherNow other).response := by
  have hlayers (id otherId : RequestId) : SameResponses site.requestIdHeader now otherNow
      (layer rule (site.serve id now) (site.settled id request)).response
      (layer rule (site.serve otherId otherNow) (site.settled otherId other)).response := by
    have hsettled := h.settled id otherId
    exact sameResponses_layer rule hsettled.method (hsettled.first? (Ne.symm horigin))
      (hsettled.first? (Ne.symm hasked))
      (sameResponses_serve hsettled.method hsettled.path id otherId)
  exact ((hlayers _ _).set _ _).complete h.method h.path

/-- **The id of a request is told and nothing else depends on it**: if the id has another header
than the origin and the header that asks for headers, a list of origins without the wildcard makes
a rule under which requests that are the same but for the values of the id's header have the same
answer but for the id: the same status, body and fields, apart from the time and the length of a
body that says nothing was found, and the same events, each under the id of its request. -/
theorem answer_same_apart_from_id {site : Site} {origins : List String}
    (horigin : site.requestIdHeader ≠ .origin) (hasked : site.requestIdHeader ≠ .requestHeaders)
    (hwildcard : "*" ∉ origins) :
    ∃ rule, (OriginRule.ofOrigins origins).result = .ok rule ∧
      ∀ (request other : Request), SameRequests site.requestIdHeader request other →
        ∀ (fresh otherFresh : Uuid) (now otherNow : String),
          SameResponses site.requestIdHeader now otherNow
            (site.answer rule fresh now request).response
            (site.answer rule otherFresh otherNow other).response ∧
          ∃ (remarks : List String) (id otherId : RequestId), site.IsIdOf fresh request id ∧
            site.IsIdOf otherFresh other otherId ∧
            (site.answer rule fresh now request).events = remarks.map (remarkOn id) ∧
            (site.answer rule otherFresh otherNow other).events =
              remarks.map (remarkOn otherId) := by
  obtain ⟨rule, hrule⟩ := OriginRule.exists_ofOrigins_of_not_wildcard hwildcard
  refine ⟨rule, hrule, ?_⟩
  intro request other h fresh otherFresh now otherNow
  refine ⟨sameResponses_answer h horigin hasked rule fresh otherFresh now otherNow,
    site.remarks request, _, _, isIdOf_resolve site fresh request,
    isIdOf_resolve site otherFresh other, ?_, ?_⟩
  · exact events_answer site rule fresh now request
  · rw [h.remarks site]
    exact events_answer site rule otherFresh otherNow other

/-- A request from an origin for a path without a document, with values for the id. -/
def requestUnder (values : List HeaderValue) : Request where
  target := "/nope"
  headers := (.origin, .ofVisible "https://docs.example.com" rfl) ::
    values.map fun value => (stock.requestIdHeader, value)

/-- Two values, of which the first is no text and the second an id. -/
def mixedIds : List HeaderValue :=
  [⟨[0xFF], by decide⟩, .ofVisible "6f1c2a9e-8d43-4b4f-9a57-2c1f0e3b7d10" (by decide)]

theorem sameRequests_requestUnder (values otherValues : List HeaderValue) :
    SameRequests stock.requestIdHeader (requestUnder values) (requestUnder otherValues) := by
  refine ⟨rfl, rfl, ?_⟩
  intro field hfield
  have hother (values : List HeaderValue) :
      Headers.values (values.map fun value => (stock.requestIdHeader, value)) field = [] := by
    simp [Headers.values, Ne.symm hfield]
  have hsplit (values : List HeaderValue) : (requestUnder values).headers.values field =
      Headers.values [(.origin, .ofVisible "https://docs.example.com" (by decide))] field := by
    rw [requestUnder, ← List.singleton_append, Headers.values_append, hother, List.append_nil]
  rw [hsplit, hsplit]

theorem answer_same_apart_from_id_requestUnder :
    ∃ rule, (OriginRule.ofOrigins ["https://docs.example.com"]).result = .ok rule ∧
      ∀ fresh otherFresh now,
        let response := (stock.answer rule fresh now (requestUnder [])).response
        let other := (stock.answer rule otherFresh now (requestUnder mixedIds)).response
        response.status = other.status ∧ response.body = other.body ∧
          response.headers.values .allowOrigin = other.headers.values .allowOrigin := by
  have horigin : stock.requestIdHeader ≠ .origin := by decide
  have hasked : stock.requestIdHeader ≠ .requestHeaders := by decide
  have hwildcard : "*" ∉ ["https://docs.example.com"] := by decide
  obtain ⟨rule, hrule, hanswers⟩ := answer_same_apart_from_id horigin hasked hwildcard
  refine ⟨rule, hrule, ?_⟩
  intro fresh otherFresh now
  obtain ⟨hsame, -⟩ :=
    hanswers _ _ (sameRequests_requestUnder [] mixedIds) fresh otherFresh now now
  refine ⟨hsame.status, ?_, hsame.values _ (by decide) fun _ => by decide⟩
  rcases hsame.body with hbody | ⟨-, before, after, hbody, hother⟩
  · exact hbody
  · rw [hbody, hother]

end DocPortal.Site
