/-
The table of paths. A preflight is answered before the table is asked. Any
other request is answered by what its path shows, letter for letter: a
document to a GET, and nothing to a method that reads none; a path that
shows nothing is told so. A HEAD is answered as the GET would be, without
the body (`answer_by_table`).
-/
import DocPortal.Proofs.Site.IdIndependence

namespace DocPortal.Site

open Http Http.Cors Viewer

/-! ## What paths show -/

/-- A path shows a text. -/
inductive Shows (site : Site) : (path text : String) → Prop where
  | health : Shows site "/health" "OK"
  | docs : Shows site "/docs" (Page.render site.config site.assets)
  | index : Shows site "/swagger-ui/index.html" (Page.render site.config site.assets)
  | initializer :
    Shows site "/swagger-initializer.js" (Script.render .initializer site.config)
  | config : Shows site "/swagger-config.js" (Script.render .config site.config)
  | optionBag : Shows site "/docs/swagger-config.json" site.config.optionBag.compact

/-- What a path shows is the body of its document. -/
theorem shows_iff {site : Site} {path text : String} :
    site.Shows path text ↔
      ∃ document, documentAt path = some document ∧ (site.document document).body = text := by
  constructor
  · intro h
    cases h with
    | health => exact ⟨.health, by decide, rfl⟩
    | docs | index => exact ⟨.page, by decide, site.page_eq⟩
    | initializer => exact ⟨.initializerScript, by decide, site.initializerScript_eq⟩
    | config => exact ⟨.configScript, by decide, site.configScript_eq⟩
    | optionBag => exact ⟨.optionBag, by decide, rfl⟩
  · rintro ⟨document, hdocument, rfl⟩
    obtain ⟨before, after, hsplit, -⟩ := List.lookup_eq_some_iff.1 hdocument
    have hmem : (path, document) ∈ documents := by
      rw [hsplit]
      exact List.mem_append_right _ List.mem_cons_self
    simp only [documents, List.mem_cons, Prod.mk.injEq, List.not_mem_nil, or_false] at hmem
    rcases hmem with ⟨rfl, rfl⟩ | ⟨rfl, rfl⟩ | ⟨rfl, rfl⟩ | ⟨rfl, rfl⟩ | ⟨rfl, rfl⟩ | ⟨rfl, rfl⟩
    · exact .health
    · rw [document_page]
      exact .docs
    · rw [document_page]
      exact .index
    · rw [document_initializerScript]
      exact .initializer
    · rw [document_configScript]
      exact .config
    · exact .optionBag

theorem documentAt_eq_none {site : Site} {path : String} (h : ∀ text, ¬ site.Shows path text) :
    documentAt path = none := by
  cases hdocument : documentAt path with
  | none => rfl
  | some document => exact absurd (shows_iff.2 ⟨document, hdocument, rfl⟩) (h _)

/-! ## Preflights -/

/-- The answer under an id, with a handler in place of the table of paths. -/
def answerBy (site : Site) (rule : OriginRule) (handle : Request → Answer) (id : RequestId)
    (request : Request) : Answer :=
  let answer := layer rule handle (site.settled id request)
  let response :=
    { answer.response with
      headers := answer.response.headers.set site.requestIdHeader id.headerValue }
  { answer with response := complete (site.settled id request) response }

theorem answerBy_serve (site : Site) (rule : OriginRule) (fresh : Uuid) (now : String)
    (request : Request) :
    let id := RequestId.resolve fresh (site.incomingId request)
    site.answerBy rule (site.serve id now) id request = site.answer rule fresh now request := rfl

/-- An answer to a preflight under an id: that it may go on, by which methods and with which
headers, in fields that are not the id's own. No handler has a part in it. -/
structure IsPreflight (site : Site) (rule : OriginRule) (id : RequestId) (request : Request)
    (answer : Answer) : Prop where
  status : answer.response.status = .ok
  body : answer.response.body = ""
  events : answer.events = []
  methods : site.requestIdHeader ≠ .allowMethods →
    answer.response.headers.values .allowMethods = [.ofVisible "GET,HEAD,OPTIONS" (by decide)]
  asked : site.requestIdHeader ≠ .allowHeaders →
    answer.response.headers.values .allowHeaders =
      ((site.settled id request).headers.first? .requestHeaders).toList
  unhandled : ∀ handle, site.answerBy rule handle id request = answer

theorem values_commonHeaders_other (rule : OriginRule) (request : Request) {name : HeaderName}
    (horigin : name ≠ .allowOrigin) :
    (commonHeaders rule request).values name =
      Headers.values [(.allowCredentials, .ofVisible "true" (by decide)), (.vary, varied)] name := by
  rw [commonHeaders, Headers.values_append]
  cases rule.allowed? (request.headers.first? .origin) with
  | none => rfl
  | some origin => simp [Headers.values, Ne.symm horigin]

theorem isPreflight_answer (site : Site) (rule : OriginRule) (fresh : Uuid) (now : String)
    {request : Request} (hoptions : request.method = .options) :
    site.IsPreflight rule (RequestId.resolve fresh (site.incomingId request)) request
      (site.answer rule fresh now request) := by
  have hlayer (id : RequestId) (handle : Request → Answer) :
      layer rule handle (site.settled id request) =
        { response := preflight rule (site.settled id request) } := if_pos hoptions
  have hvalues {name : HeaderName} (hid : site.requestIdHeader ≠ name)
      (hlength : name ≠ .contentLength) (hallow : name ≠ .allow) :
      (site.answer rule fresh now request).response.headers.values name =
        (preflight rule (site.settled (RequestId.resolve fresh (site.incomingId request))
          request)).headers.values name := by
    rw [values_answer_other site rule fresh now request (Ne.symm hid) hlength hallow, hlayer]
  refine ⟨?_, ?_, ?_, ?_, ?_, ?_⟩
  · rw [← answerBy_serve, answerBy, hlayer]
    rfl
  · rw [← answerBy_serve, answerBy, hlayer]
    exact ite_self _
  · rw [← answerBy_serve, answerBy, hlayer]
  · intro hid
    rw [hvalues hid (by decide) (by decide), preflight, Headers.values_append,
      Headers.values_append, values_commonHeaders_other _ _ (by decide)]
    generalize (site.settled _ request).headers.first? .requestHeaders = asked
    cases asked <;> rfl
  · intro hid
    rw [hvalues hid (by decide) (by decide), preflight, Headers.values_append,
      Headers.values_append, values_commonHeaders_other _ _ (by decide)]
    generalize (site.settled _ request).headers.first? .requestHeaders = asked
    cases asked <;> rfl
  · intro handle
    rw [← answerBy_serve, answerBy, answerBy, hlayer, hlayer]

/-! ## The table -/

/-- An answer by the table of paths: a document to a GET, nothing to a method that reads none, and
that nothing was found where the path shows nothing. -/
structure IsTabled (site : Site) (now : String) (request : Request) (answer : Answer) :
    Prop where
  shown : ∀ text, site.Shows request.path text → request.method = .get →
    answer.response.status = .ok ∧ answer.response.body = text
  refused : ∀ text, site.Shows request.path text → request.method ≠ .get →
    request.method ≠ .head →
    answer.response.status = .methodNotAllowed ∧ answer.response.body = ""
  missing : (∀ text, ¬ site.Shows request.path text) →
    answer.response.status = .notFound ∧ (request.method ≠ .head →
      answer.response.body = (Problem.toJson {
        timestamp := now, status := .notFound, message := "Resource not found",
        path := request.path }).compact)

theorem status_answer_of_not_options (site : Site) (rule : OriginRule) (fresh : Uuid)
    (now : String) {request : Request} (hoptions : request.method ≠ .options) :
    let id := RequestId.resolve fresh (site.incomingId request)
    (site.answer rule fresh now request).response.status =
      (site.serve id now (site.settled id request)).response.status := by
  intro id
  have hsettled : (site.settled id request).method ≠ .options := hoptions
  rw [← answerBy_serve, answerBy, layer, if_neg hsettled, complete]

theorem body_answer_of_not_options (site : Site) (rule : OriginRule) (fresh : Uuid)
    (now : String) {request : Request} (hoptions : request.method ≠ .options)
    (hhead : request.method ≠ .head) :
    let id := RequestId.resolve fresh (site.incomingId request)
    (site.answer rule fresh now request).response.body =
      (site.serve id now (site.settled id request)).response.body := by
  intro id
  have hsettled : (site.settled id request).method ≠ .options := hoptions
  rw [body_answer_of_not_head site rule fresh now hhead, body_layer_of_not_options rule hsettled]

theorem isTabled_answer (site : Site) (rule : OriginRule) (fresh : Uuid) (now : String)
    {request : Request} (hoptions : request.method ≠ .options) :
    site.IsTabled now request (site.answer rule fresh now request) := by
  have hstatus := status_answer_of_not_options site rule fresh now hoptions
  have hbody := body_answer_of_not_options site rule fresh now hoptions
  generalize RequestId.resolve fresh (site.incomingId request) = id at hstatus hbody
  refine ⟨?_, ?_, ?_⟩
  · intro text hshows hget
    obtain ⟨document, hdocument, rfl⟩ := shows_iff.1 hshows
    have hsettled : documentAt (site.settled id request).path = some document := hdocument
    have hreading : isReading (site.settled id request).method = true := by
      rw [settled, hget]
      decide
    refine ⟨?_, body_answer_of_get site rule fresh now hget hdocument⟩
    rw [hstatus, response_serve_of_reading site id now hsettled hreading]
    cases document <;> rfl
  · intro text hshows hget hhead
    obtain ⟨document, hdocument, rfl⟩ := shows_iff.1 hshows
    have hsettled : documentAt (site.settled id request).path = some document := hdocument
    have hreading : ¬ isReading (site.settled id request).method = true := by
      simp [isReading, settled, hget, hhead]
    have hserve : (site.serve id now (site.settled id request)).response =
        { status := .methodNotAllowed } := by
      rw [serve, hsettled]
      dsimp only
      rw [if_neg hreading]
    rw [hstatus, hbody hhead, hserve]
    exact ⟨rfl, rfl⟩
  · intro hnone
    have hsettled : documentAt (site.settled id request).path = none := documentAt_eq_none hnone
    have hserve : site.serve id now (site.settled id request) =
        site.notFound now (site.settled id request) := by
      rw [serve, hsettled]
    rw [hstatus, hserve]
    refine ⟨rfl, ?_⟩
    intro hhead
    rw [hbody hhead, hserve]
    rfl

/-! ## HEAD and GET -/

/-- A HEAD is answered as the GET for the same target and fields, but without a body. -/
theorem answer_head (site : Site) (rule : OriginRule) (fresh : Uuid) (now : String)
    (target : String) (headers : Headers) :
    site.answer rule fresh now { method := .head, target, headers } =
      { site.answer rule fresh now { method := .get, target, headers } with
        response.body := "" } := by
  have hhead : (Method.head = .options) = False := by decide
  have hget : (Method.get = .options) = False := by decide
  have hreading : isReading .head = true ∧ isReading .get = true := by decide
  have hpath (method : Method) (fields : Headers) :
      ({ method, target, headers := fields } : Request).path =
        ({ target, headers } : Request).path := rfl
  unfold answer incomingId layer serve complete
  simp only [hhead, hget, if_false, hreading.1, hreading.2, hpath]
  cases documentAt ({ target, headers } : Request).path with
  | none => rfl
  | some document => rfl

section Fields

variable (site : Site) (rule : OriginRule) (fresh : Uuid) (now : String) {request : Request}
  (hget : request.method = .get) {name : HeaderName} (hid : name ≠ site.requestIdHeader)
include hget hid

/-- A field of the answer to a GET is the table's and the origin layer's, and where these say no
length, that of the body. -/
theorem values_answer_of_get :
    let id := RequestId.resolve fresh (site.incomingId request)
    let served := (site.serve id now (site.settled id request)).response
    let values := served.headers.values name ++
      (commonHeaders rule (site.settled id request)).values name
    (site.answer rule fresh now request).response.headers.values name =
      if name = .contentLength ∧ values = [] then [.ofNat served.body.utf8ByteSize]
      else values := by
  intro id served values
  have hoptions : (site.settled id request).method ≠ .options := by rw [settled, hget]; decide
  have hreading : ¬ (isReading (site.settled id request).method ≠ true) := by
    rw [settled, hget]
    decide
  rw [← answerBy_serve, answerBy, layer, if_neg hoptions]
  unfold complete
  dsimp only
  rw [if_neg fun h => hreading h.2, Headers.values_setIfAbsent, Headers.values_set_other _ _ hid,
    Headers.values_append]

end Fields

/-- The table says the same of a request at all times and under all ids, but for the body that tells
the time. -/
theorem serve_alike (site : Site) (id otherId : RequestId) (now otherNow : String)
    (request : Request) :
    let served := (site.serve id now (site.settled id request)).response
    let other := (site.serve otherId otherNow (site.settled otherId request)).response
    served.status = other.status ∧ served.headers = other.headers ∧
      (served.body = other.body ∨ served.status = .notFound ∧ now ≠ otherNow) := by
  have hpath (id : RequestId) : (site.settled id request).path = request.path := rfl
  have hmethod (id : RequestId) : (site.settled id request).method = request.method := rfl
  unfold serve
  simp only [hpath, hmethod]
  cases documentAt request.path with
  | none =>
    dsimp only
    rw [response_notFound, response_notFound, hpath, hpath, content, content]
    by_cases hnow : now = otherNow
    · exact ⟨rfl, rfl, .inl (by rw [hnow])⟩
    · exact ⟨rfl, rfl, .inr ⟨rfl, hnow⟩⟩
  | some document =>
    dsimp only
    split
    · exact ⟨rfl, rfl, .inl rfl⟩
    · exact ⟨rfl, rfl, .inl rfl⟩

/-- Values that are the same, or else nothing but ids, each answer's its own, where these differ. -/
def SameOrIds (id otherId : RequestId) (values others : List HeaderValue) : Prop :=
  values = others ∨ id ≠ otherId ∧ (∀ value ∈ values, value = id.headerValue) ∧
    ∀ value ∈ others, value = otherId.headerValue

theorem sameOrIds_of_forall {values : RequestId → List HeaderValue}
    (h : ∀ id, ∀ value ∈ values id, value = id.headerValue) (id otherId : RequestId) :
    SameOrIds id otherId (values id) (values otherId) := by
  by_cases hid : id = otherId
  · exact .inl (congrArg values hid)
  · exact .inr ⟨hid, h id, h otherId⟩

/-- Under all ids the origin layer says the same to a request, except where the origin is read from
the header of the id. -/
theorem sameOrIds_commonHeaders (site : Site) (rule : OriginRule) (id otherId : RequestId)
    (request : Request) :
    SameOrIds id otherId ((commonHeaders rule (site.settled id request)).values .allowOrigin)
      ((commonHeaders rule (site.settled otherId request)).values .allowOrigin) := by
  rw [values_allowOrigin_commonHeaders, values_allowOrigin_commonHeaders]
  by_cases horigin : site.requestIdHeader = .origin
  · have hfirst (id : RequestId) :
        (site.settled id request).headers.first? .origin = some id.headerValue := by
      rw [← horigin, first?_settled]
    rw [hfirst, hfirst]
    have hmirrored : ∀ id : RequestId, ∀ value ∈ (rule.allowed? (some id.headerValue)).toList,
        value = id.headerValue := by
      intro id value hvalue
      cases rule with
      | unrestricted => simpa [OriginRule.allowed?] using hvalue
      | listed origins =>
        simp only [OriginRule.allowed?, Option.mem_toList, Option.filter_eq_some_iff,
          Option.some.injEq] at hvalue
        exact hvalue.1.symm
    exact sameOrIds_of_forall hmirrored id otherId
  · have hfirst (id : RequestId) :
        (site.settled id request).headers.first? .origin = request.headers.first? .origin :=
      Headers.first?_set_other _ _ (Ne.symm horigin)
    rw [hfirst, hfirst]
    exact .inl rfl

/-- What is drawn for the answer to a GET, its id and its time, is seen in the fields that hold the
id and in the length of the body that tells the time. -/
theorem values_answer_of_get_alike (site : Site) (rule : OriginRule) (fresh otherFresh : Uuid)
    (now otherNow : String) {request : Request} (hget : request.method = .get)
    (name : HeaderName) :
    SameOrIds (RequestId.resolve fresh (site.incomingId request))
        (RequestId.resolve otherFresh (site.incomingId request))
        ((site.answer rule fresh now request).response.headers.values name)
        ((site.answer rule otherFresh otherNow request).response.headers.values name) ∨
      name = .contentLength ∧ now ≠ otherNow ∧
        (site.answer rule fresh now request).response.status = .notFound := by
  have hoptions : request.method ≠ .options := by rw [hget]; decide
  by_cases hname : name = site.requestIdHeader
  · subst hname
    rw [values_id_answer, values_id_answer]
    have hvalue : ∀ id : RequestId, ∀ value ∈ [id.headerValue], value = id.headerValue :=
      fun _ _ => List.mem_singleton.1
    exact .inl (sameOrIds_of_forall hvalue _ _)
  rw [values_answer_of_get site rule fresh now hget hname,
    values_answer_of_get site rule otherFresh otherNow hget hname,
    status_answer_of_not_options site rule fresh now hoptions]
  generalize RequestId.resolve fresh (site.incomingId request) = id
  generalize RequestId.resolve otherFresh (site.incomingId request) = otherId
  obtain ⟨-, hheaders, hbody⟩ := serve_alike site id otherId now otherNow request
  by_cases horigin : name = .allowOrigin
  · subst horigin
    have hserve (id : RequestId) (now : String) :
        (site.serve id now (site.settled id request)).response.headers.values .allowOrigin = [] :=
      values_serve_other site id now (site.settled id request) (by decide)
    have hlength : (HeaderName.allowOrigin = .contentLength) = False := by decide
    simp only [hserve, hlength, false_and, if_false, List.nil_append]
    exact .inl (sameOrIds_commonHeaders site rule id otherId request)
  · rw [values_commonHeaders_other rule (site.settled id request) horigin,
      values_commonHeaders_other rule (site.settled otherId request) horigin, hheaders]
    rcases hbody with hbody | ⟨hstatus, hnow⟩
    · rw [hbody]
      exact .inl (.inl rfl)
    · by_cases hlength : name = .contentLength
      · exact .inr ⟨hlength, hnow, hstatus⟩
      · simp only [hlength, false_and, if_false]
        exact .inl (.inl rfl)

/-- The answer to a HEAD agrees with that to a GET, each under its id and at its time. -/
structure HeadAgrees (id otherId : RequestId) (now otherNow : String) (get head : Answer) :
    Prop where
  status : head.response.status = get.response.status
  body : head.response.body = ""
  values : ∀ name,
    SameOrIds id otherId (get.response.headers.values name) (head.response.headers.values name) ∨
      name = .contentLength ∧ now ≠ otherNow ∧ get.response.status = .notFound
  events : ∃ remarks : List String,
    get.events = remarks.map (remarkOn id) ∧ head.events = remarks.map (remarkOn otherId)

theorem headAgrees_answer (site : Site) (rule : OriginRule) (fresh otherFresh : Uuid)
    (now otherNow : String) (target : String) (headers : Headers) :
    let get : Request := { method := .get, target, headers }
    let head : Request := { method := .head, target, headers }
    HeadAgrees (RequestId.resolve fresh (site.incomingId get))
      (RequestId.resolve otherFresh (site.incomingId head)) now otherNow
      (site.answer rule fresh now get) (site.answer rule otherFresh otherNow head) := by
  intro get head
  have hget : get.method = .get := rfl
  have hoptions : get.method ≠ .options := by rw [hget]; decide
  have hincoming : site.incomingId head = site.incomingId get := rfl
  have hstatus : (site.answer rule otherFresh otherNow get).response.status =
      (site.answer rule fresh now get).response.status := by
    rw [status_answer_of_not_options site rule fresh now hoptions,
      status_answer_of_not_options site rule otherFresh otherNow hoptions]
    exact (serve_alike site _ _ now otherNow get).1.symm
  have hvalues := values_answer_of_get_alike site rule fresh otherFresh now otherNow hget
  have hevents := events_answer site rule fresh now get
  have hotherEvents := events_answer site rule otherFresh otherNow get
  rw [answer_head, hincoming]
  generalize site.answer rule fresh now get = answer at *
  generalize site.answer rule otherFresh otherNow get = otherAnswer at *
  exact ⟨hstatus, rfl, hvalues, site.remarks get, hevents, hotherEvents⟩

/-! ## Answers -/

/-- The path of a target that is a path with a query is written as it stands before the query. -/
theorem toList_path_of_slash {request : Request} {cs : List Char}
    (h : request.target.toList = '/' :: cs) :
    request.path.toList = '/' :: cs.takeWhile fun c => c ≠ '?' && c ≠ '#' := by
  rw [Request.path, String.toList_ofList, h]
  rfl

/-- **Every request is answered by one table**: a list of origins without the wildcard makes a rule,
and under it a preflight, for whatever path, is answered without a handler; any other request is
answered by what its path shows, which is the path as it is written, without the query; and a HEAD
has the answer of the GET for the same target and fields, but for the body, so that two such answers
differ in what is drawn for each, an id and the time in the body of a path that shows nothing. -/
theorem answer_by_table {site : Site} {origins : List String} (hwildcard : "*" ∉ origins) :
    ∃ rule, (OriginRule.ofOrigins origins).result = .ok rule ∧
      (∀ (fresh : Uuid) (now : String) (request : Request),
        (∀ cs, request.target.toList = '/' :: cs →
          request.path.toList = '/' :: cs.takeWhile fun c => c ≠ '?' && c ≠ '#') ∧
        (request.method = .options → ∃ id, site.IsIdOf fresh request id ∧
          site.IsPreflight rule id request (site.answer rule fresh now request)) ∧
        (request.method ≠ .options →
          site.IsTabled now request (site.answer rule fresh now request))) ∧
      ∀ (fresh otherFresh : Uuid) (now otherNow : String) (target : String) (headers : Headers),
        let get : Request := { method := .get, target, headers }
        let head : Request := { method := .head, target, headers }
        site.answer rule fresh now head =
          { site.answer rule fresh now get with response.body := "" } ∧
        ∃ id otherId, site.IsIdOf fresh get id ∧ site.IsIdOf otherFresh head otherId ∧
          HeadAgrees id otherId now otherNow (site.answer rule fresh now get)
            (site.answer rule otherFresh otherNow head) := by
  obtain ⟨rule, hrule⟩ := OriginRule.exists_ofOrigins_of_not_wildcard hwildcard
  refine ⟨rule, hrule, ?_, ?_⟩
  · intro fresh now request
    refine ⟨fun _ => toList_path_of_slash, ?_, isTabled_answer site rule fresh now⟩
    intro hoptions
    exact ⟨_, isIdOf_resolve site fresh request, isPreflight_answer site rule fresh now hoptions⟩
  · intro fresh otherFresh now otherNow target headers get head
    exact ⟨answer_head site rule fresh now target headers, _, _, isIdOf_resolve site fresh get,
      isIdOf_resolve site otherFresh head,
      headAgrees_answer site rule fresh otherFresh now otherNow target headers⟩

theorem answer_by_table_stock :
    ∃ rule, (OriginRule.ofOrigins ["https://docs.example.com"]).result = .ok rule ∧
      ∀ fresh now,
        let answer (method : Method) (target : String) :=
          (stock.answer rule fresh now { method, target }).response
        (answer .options "/nope").status = .ok ∧ (answer .options "/nope").body = "" ∧
        (answer .get "/health?x").body = "OK" ∧
        (answer ⟨"get"⟩ "/docs#x").status = .methodNotAllowed ∧
        (answer .get "/docs/").status = .notFound ∧
        (answer .head "/docs").status = (answer .get "/docs").status := by
  have hwildcard : "*" ∉ ["https://docs.example.com"] := by decide
  obtain ⟨rule, hrule, hanswers, hheads⟩ := @answer_by_table stock _ hwildcard
  refine ⟨rule, hrule, ?_⟩
  intro fresh now
  obtain ⟨-, hpreflight, -⟩ := hanswers fresh now { method := .options, target := "/nope" }
  obtain ⟨-, -, htable⟩ := hanswers fresh now { target := "/health?x" }
  obtain ⟨-, -, hlower⟩ := hanswers fresh now { method := ⟨"get"⟩, target := "/docs#x" }
  obtain ⟨-, -, hslash⟩ := hanswers fresh now { target := "/docs/" }
  obtain ⟨-, _, _, -, -, hhead⟩ := hheads fresh fresh now now "/docs" []
  obtain ⟨id, -, hpreflight⟩ := hpreflight rfl
  have hhealth : stock.Shows (Request.path { target := "/health?x" }) "OK" := .health
  have hdocs : stock.Shows (Request.path { method := ⟨"get"⟩, target := "/docs#x" })
      (Page.render stock.config stock.assets) := .docs
  have hnone : ∀ text, ¬ stock.Shows (Request.path { target := "/docs/" }) text := by
    intro text hshows
    obtain ⟨document, hdocument, -⟩ := shows_iff.1 hshows
    exact absurd hdocument (by cases document <;> decide)
  refine ⟨hpreflight.status, hpreflight.body, ?_, ?_, ?_, hhead.status⟩
  · exact ((htable (by decide)).shown _ hhealth rfl).2
  · exact ((hlower (by decide)).refused _ hdocs (by decide) (by decide)).1
  · exact ((hslash (by decide)).missing hnone).1

end DocPortal.Site
