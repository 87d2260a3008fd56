/-
The origin that an answer allows. Whatever a request asks for, its answer
allows what the rule of the site allows to the request's origin; under a
list of origins that is the request's own origin if the list has it, byte
for byte, and none otherwise (`allowedOrigins_answer_of_listed`).
-/
import DocPortal.Proofs.Site.Answer

namespace DocPortal.Site

open Http Http.Cors

/-- The origins that the answer to a request allows to read it. -/
def allowedOrigins (site : Site) (rule : OriginRule) (fresh : Uuid) (now : String)
    (request : Request) : List HeaderValue :=
  (site.answer rule fresh now request).response.headers.values .allowOrigin

/-- The rule decides over the origin of the request, whatever its path and method, and whether
there is a document for it or not. -/
theorem allowedOrigins_eq {site : Site} (horigin : site.requestIdHeader ≠ .origin)
    (hallow : site.requestIdHeader ≠ .allowOrigin) (rule : OriginRule) (fresh : Uuid)
    (now : String) (request : Request) :
    site.allowedOrigins rule fresh now request =
      (rule.allowed? (request.headers.first? .origin)).toList := by
  rw [allowedOrigins,
    values_answer_other site rule fresh now request (Ne.symm hallow) (by decide) (by decide),
    values_allowOrigin_layer rule (values_serve_other site _ now _ (by decide)), settled,
    Headers.first?_set_other _ _ (Ne.symm horigin)]

/-! ## Lists -/

/-- The request comes from an origin that a list has, byte for byte. -/
def ComesFrom (origins : List String) (request : Request) (origin : HeaderValue) : Prop :=
  request.headers.first? .origin = some origin ∧
    ∃ entry ∈ origins, HeaderValue.ofText? entry = some origin

section Listed

variable {site : Site} {origins : List String} (horigin : site.requestIdHeader ≠ .origin)
  (hallow : site.requestIdHeader ≠ .allowOrigin)
include horigin hallow

theorem allowedOrigins_of_comesFrom (fresh : Uuid) (now : String) {request : Request}
    {origin : HeaderValue} (hfrom : ComesFrom origins request origin) :
    site.allowedOrigins (.listed (origins.filterMap HeaderValue.ofText?)) fresh now request =
      [origin] := by
  rw [allowedOrigins_eq horigin hallow, OriginRule.allowed?_listed_eq_some_iff.2 hfrom]
  rfl

theorem mem_allowedOrigins_iff {fresh : Uuid} {now : String} {request : Request}
    {origin : HeaderValue} :
    origin ∈ site.allowedOrigins (.listed (origins.filterMap HeaderValue.ofText?)) fresh now
        request ↔ ComesFrom origins request origin := by
  rw [allowedOrigins_eq horigin hallow, Option.mem_toList,
    OriginRule.allowed?_listed_eq_some_iff, ComesFrom]

end Listed

/-- **A list of origins holds for every answer.** A list that is not empty and has no wildcard
makes a rule, and under it an answer to any request, of any method and for any path, allows an
origin if and only if the request's own is a usable entry of the list; it allows that one and says
so once. If no entry is usable, it allows none. -/
theorem allowedOrigins_answer_of_listed {site : Site} {origins : List String}
    (horigin : site.requestIdHeader ≠ .origin) (hallow : site.requestIdHeader ≠ .allowOrigin)
    (hne : origins ≠ []) (hwildcard : "*" ∉ origins) :
    ∃ rule, (OriginRule.ofOrigins origins).result = .ok rule ∧
      ∀ (fresh : Uuid) (now : String) (request : Request),
        (site.allowedOrigins rule fresh now request ≠ [] ↔
          ∃ origin, ComesFrom origins request origin) ∧
        (∀ origin, ComesFrom origins request origin →
          site.allowedOrigins rule fresh now request = [origin]) ∧
        ((∀ entry ∈ origins, HeaderValue.ofText? entry = none) →
          site.allowedOrigins rule fresh now request = []) := by
  refine ⟨_, OriginRule.ofOrigins_of_ne_nil hne hwildcard, fun fresh now request => ?_⟩
  refine ⟨⟨fun hsome => ?_, fun ⟨origin, hfrom⟩ => ?_⟩, fun origin hfrom => ?_, fun hnone => ?_⟩
  · obtain ⟨origin, hmem⟩ := List.exists_mem_of_ne_nil _ hsome
    exact ⟨origin, (mem_allowedOrigins_iff horigin hallow).1 hmem⟩
  · exact List.ne_nil_of_mem ((mem_allowedOrigins_iff horigin hallow).2 hfrom)
  · exact allowedOrigins_of_comesFrom horigin hallow fresh now hfrom
  · refine List.eq_nil_iff_forall_not_mem.2 fun origin hmem => ?_
    obtain ⟨-, entry, hentry, hvalue⟩ := (mem_allowedOrigins_iff horigin hallow).1 hmem
    rw [hnone entry hentry] at hvalue
    cases hvalue

/-- A list with an origin, and an entry that cannot be one. -/
def mixedOrigins : List String := ["https://docs.example.com", "https://\x07"]

/-- A preflight request for a path without a document, from an origin and then from another. -/
def preflightFrom (first : HeaderValue) : Request where
  method := .options
  target := "/nope?x"
  headers := [(.origin, first), (.origin, .ofVisible "https://docs.example.com" (by decide))]

theorem allowedOrigins_answer_of_mixedOrigins :
    ∃ rule, (OriginRule.ofOrigins mixedOrigins).result = .ok rule ∧
      ∀ fresh now,
        stock.allowedOrigins rule fresh now
            (preflightFrom (.ofVisible "https://docs.example.com" (by decide))) =
          [.ofVisible "https://docs.example.com" (by decide)] ∧
        stock.allowedOrigins rule fresh now (preflightFrom ⟨[0xFF], by decide⟩) = [] := by
  have horigin : stock.requestIdHeader ≠ .origin := by decide
  have hallow : stock.requestIdHeader ≠ .allowOrigin := by decide
  have hne : mixedOrigins ≠ [] := by decide
  have hwildcard : "*" ∉ mixedOrigins := by decide
  obtain ⟨rule, hrule, hanswers⟩ := allowedOrigins_answer_of_listed horigin hallow hne hwildcard
  refine ⟨rule, hrule, fun fresh now => ⟨?_, ?_⟩⟩
  · obtain ⟨-, hallowed, -⟩ := hanswers fresh now
      (preflightFrom (.ofVisible "https://docs.example.com" (by decide)))
    exact hallowed _ ⟨rfl, "https://docs.example.com", by decide, by decide⟩
  · obtain ⟨hsome, -⟩ := hanswers fresh now (preflightFrom ⟨[0xFF], by decide⟩)
    refine Decidable.byContradiction fun hne => ?_
    obtain ⟨origin, hfirst, entry, hentry, hvalue⟩ := hsome.1 hne
    obtain rfl := Option.some.inj hfirst
    have hother : ∀ entry ∈ mixedOrigins,
        HeaderValue.ofText? entry ≠ some ⟨[0xFF], by decide⟩ := by decide
    exact hother entry hentry hvalue

end DocPortal.Site
