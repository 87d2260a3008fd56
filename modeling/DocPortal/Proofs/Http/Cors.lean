/-
Rules for origins. A list makes a rule exactly when it has no wildcard. The
rule of a list with entries allows what its usable entries name and nothing
else, even where none is usable; only the empty list mirrors. The layer
writes what its rule allows to the origin of the request, and a handler's
response keeps its other fields.
-/
import DocPortal.Http.Cors
import DocPortal.Proofs.Http.Header

namespace DocPortal.Http.Cors

namespace OriginRule

/-! ## Rules of lists -/

theorem ofOrigins_nil : (ofOrigins []).result = .ok unrestricted := rfl

/-- The values of a list have the wildcard exactly if it stands in the list as it is. -/
theorem wildcard_mem_filterMap_iff {origins : List String} :
    wildcard ∈ origins.filterMap HeaderValue.ofText? ↔ "*" ∈ origins := by
  rw [List.mem_filterMap]
  constructor
  · rintro ⟨origin, horigin, hvalue⟩
    have hchars : origin.toList = "*".toList :=
      HeaderValue.encode_inj (HeaderValue.ofText?_eq_some_iff.1 hvalue)
    rwa [String.toList_inj.1 hchars] at horigin
  · exact fun horigin => ⟨"*", horigin, HeaderValue.ofText?_eq_some_iff.2 rfl⟩

theorem ofOrigins_of_ne_nil {origins : List String} (hne : origins ≠ [])
    (hwildcard : "*" ∉ origins) :
    (ofOrigins origins).result = .ok (listed (origins.filterMap HeaderValue.ofText?)) := by
  rw [ofOrigins, if_neg hne, ofList, if_neg (mt wildcard_mem_filterMap_iff.1 hwildcard)]

theorem ofOrigins_of_wildcard {origins : List String} (hwildcard : "*" ∈ origins) :
    (ofOrigins origins).result = .error .wildcard := by
  have hne : origins ≠ [] := List.ne_nil_of_mem hwildcard
  rw [ofOrigins, if_neg hne, ofList, if_pos (wildcard_mem_filterMap_iff.2 hwildcard)]

theorem exists_ofOrigins_of_not_wildcard {origins : List String} (hwildcard : "*" ∉ origins) :
    ∃ rule, (ofOrigins origins).result = .ok rule := by
  by_cases hne : origins = []
  · subst hne
    exact ⟨_, ofOrigins_nil⟩
  · exact ⟨_, ofOrigins_of_ne_nil hne hwildcard⟩

/-! ## What a rule allows -/

theorem allowed?_listed_eq_some_iff {origins : List String} {asked : Option HeaderValue}
    {origin : HeaderValue} :
    (listed (origins.filterMap HeaderValue.ofText?)).allowed? asked = some origin ↔
      asked = some origin ∧ ∃ entry ∈ origins, HeaderValue.ofText? entry = some origin := by
  simp [allowed?, Option.filter_eq_some_iff]

end OriginRule

/-! ## The layer -/

theorem values_allowOrigin_commonHeaders (rule : OriginRule) (request : Request) :
    (commonHeaders rule request).values .allowOrigin =
      (rule.allowed? (request.headers.first? .origin)).toList := by
  have hothers : Headers.values
      [(.allowCredentials, .ofVisible "true" (by decide)), (.vary, varied)] .allowOrigin = [] := rfl
  rw [commonHeaders, Headers.values_append, hothers, List.append_nil]
  cases rule.allowed? (request.headers.first? .origin) <;> rfl

/-- A response is allowed to the origin that the rule allows, where the handler says nothing of
it. -/
theorem values_allowOrigin_layer (rule : OriginRule) {handle : Request → Answer}
    {request : Request} (hhandle : (handle request).response.headers.values .allowOrigin = []) :
    (layer rule handle request).response.headers.values .allowOrigin =
      (rule.allowed? (request.headers.first? .origin)).toList := by
  unfold layer
  split
  · have hasked : Headers.values ((request.headers.first? .requestHeaders).map fun asked =>
        (HeaderName.allowHeaders, asked)).toList .allowOrigin = [] := by
      cases request.headers.first? .requestHeaders <;> rfl
    have hmethods : Headers.values
        [(.allowMethods, .ofVisible "GET,HEAD,OPTIONS" (by decide))] .allowOrigin = [] := rfl
    rw [preflight, Headers.values_append, Headers.values_append, hasked, hmethods,
      List.append_nil, List.append_nil, values_allowOrigin_commonHeaders]
  · rw [Headers.values_append, hhandle, List.nil_append, values_allowOrigin_commonHeaders]

/-- A request that is no preflight gets the body of its handler. -/
theorem body_layer_of_not_options (rule : OriginRule) {handle : Request → Answer}
    {request : Request} (hoptions : request.method ≠ .options) :
    (layer rule handle request).response.body = (handle request).response.body := by
  rw [layer, if_neg hoptions]

end DocPortal.Http.Cors
