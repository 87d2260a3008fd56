/-
Origins restricted by a variable. The service allows no origin but those
that the text of the variable lists, as long as it lists anything; after a
text of nothing but commas and blanks every origin is allowed, as if the
variable were not set (`allowsOnly_entries_iff`).
-/
import DocPortal.Proofs.Program.Start
import DocPortal.Proofs.Site.AllowedOrigin

namespace DocPortal.Program.Server

open Http (HeaderValue Request)
open Http.Cors (OriginRule)

/-- Where an answer of the service allows an origin, the request's is one of some texts, byte for
byte. -/
def AllowsOnly (ready : Ready) (texts : List String) : Prop :=
  ∀ fresh now request, ready.site.allowedOrigins ready.rule fresh now request ≠ [] →
    ∃ origin, request.headers.first? .origin = some origin ∧
      ∃ text ∈ texts, HeaderValue.encode text.toList = origin.bytes

/-- A request from a host that is on no list. -/
def foreignRequest : Request where
  target := "/health"
  headers := [(.origin, .ofVisible "https://evil.example.com" (by decide))]

section Restricted

variable {env : Lookup} {text : String} {settings : Settings} {site : Site}
  (htext : env Settings.originsVariable = some text)
  (hsetup : (Site.setUp env).result = .ok (settings, site))
include htext hsetup

/-- The rule of a service is that of the entries of the text. -/
theorem result_start_of_entries {rule : OriginRule}
    (hrule : (OriginRule.ofOrigins (Text.entries text)).result = .ok rule) :
    (start env).result =
      .ok { site, rule, registry := ⟨some site.config⟩, port := settings.port } := by
  obtain ⟨hread, -⟩ := Site.setUp_eq_ok_iff.1 hsetup
  refine result_start_of_rule hsetup ?_
  rw [Settings.allowedOrigins_of_read hread htext]
  exact hrule

variable (horigin : site.requestIdHeader ≠ .origin) (hallow : site.requestIdHeader ≠ .allowOrigin)
include horigin hallow

/-- A text with entries restricts the service to them. -/
theorem exists_start_allowsOnly (hentries : Text.entries text ≠ [])
    (hwildcard : "*" ∉ Text.entries text) :
    ∃ ready, (start env).result = .ok ready ∧ ready.site = site ∧
      AllowsOnly ready (Text.entries text) := by
  refine ⟨_, result_start_of_entries htext hsetup
    (OriginRule.ofOrigins_of_ne_nil hentries hwildcard), rfl, fun fresh now request hne => ?_⟩
  obtain ⟨origin, hmem⟩ := List.exists_mem_of_ne_nil _ hne
  obtain ⟨hfirst, entry, hentry, hvalue⟩ :=
    (Site.mem_allowedOrigins_iff horigin hallow).1 hmem
  exact ⟨origin, hfirst, entry, hentry, HeaderValue.ofText?_eq_some_iff.1 hvalue⟩

/-- A text without entries lets a service allow whatever origin a request has. -/
theorem exists_start_mirrors (hentries : Text.entries text = []) :
    ∃ ready, (start env).result = .ok ready ∧ ready.site = site ∧
      ∀ fresh now request, ready.site.allowedOrigins ready.rule fresh now request =
        (request.headers.first? .origin).toList := by
  have hrule : (OriginRule.ofOrigins (Text.entries text)).result = .ok .unrestricted := by
    rw [hentries]
    rfl
  refine ⟨_, result_start_of_entries htext hsetup hrule, rfl, fun fresh now request => ?_⟩
  rw [Site.allowedOrigins_eq horigin hallow]
  rfl

end Restricted

theorem not_allowsOnly_of_mirrors {ready : Ready}
    (hmirrors : ∀ fresh now request, ready.site.allowedOrigins ready.rule fresh now request =
      (request.headers.first? .origin).toList) : ¬ AllowsOnly ready [] := by
  intro honly
  have hne : ready.site.allowedOrigins ready.rule ⟨0⟩ "" foreignRequest ≠ [] := by
    rw [hmirrors]
    decide
  obtain ⟨_, _, text, htext, _⟩ := honly ⟨0⟩ "" foreignRequest hne
  cases htext

/-- **When a variable restricts the origins**: if the setup goes well, the text of the variable does
not list the wildcard and the request id has a header of its own, the service starts, and allows no
origin but the entries of the text exactly if the text lists something. If it lists nothing, the
service allows every request its own origin. -/
theorem allowsOnly_entries_iff {env : Lookup} {text : String} {settings : Settings} {site : Site}
    (htext : env Settings.originsVariable = some text)
    (hsetup : (Site.setUp env).result = .ok (settings, site))
    (hwildcard : "*" ∉ Text.entries text) (horigin : site.requestIdHeader ≠ .origin)
    (hallow : site.requestIdHeader ≠ .allowOrigin) :
    ∃ ready, (start env).result = .ok ready ∧ ready.site = site ∧
      (AllowsOnly ready (Text.entries text) ↔ ¬ Text.ListsNothing text) ∧
      (Text.ListsNothing text →
        ∀ fresh now request, ready.site.allowedOrigins ready.rule fresh now request =
          (request.headers.first? .origin).toList) := by
  rw [← Text.entries_eq_nil_iff]
  by_cases hentries : Text.entries text = []
  · obtain ⟨ready, hstart, hsite, hmirrors⟩ :=
      exists_start_mirrors htext hsetup horigin hallow hentries
    refine ⟨ready, hstart, hsite, ⟨fun honly => ?_, fun hne => absurd hentries hne⟩,
      fun _ => hmirrors⟩
    rw [hentries] at honly
    exact absurd honly (not_allowsOnly_of_mirrors hmirrors)
  · obtain ⟨ready, hstart, hsite, honly⟩ :=
      exists_start_allowsOnly htext hsetup horigin hallow hentries hwildcard
    exact ⟨ready, hstart, hsite, ⟨fun _ => hentries, fun _ => honly⟩,
      fun hnil => absurd hnil hentries⟩

/-- A text with an origin among empty entries, and one that cannot be one. -/
def sparseOrigins : String := " , https://docs.example.com,,https://\x07 "

theorem allowsOnly_entries_sparseOrigins :
    ∃ ready, (start (onlyOrigins sparseOrigins)).result = .ok ready ∧
      AllowsOnly ready ["https://docs.example.com", "https://\x07"] := by
  have hentries : Text.entries sparseOrigins = ["https://docs.example.com", "https://\x07"] := by
    decide
  have hsetup : (Site.setUp (onlyOrigins sparseOrigins)).result =
      .ok (originSettings sparseOrigins, Site.stock) := result_setUp_onlyOrigins (by decide)
  have hwildcard : "*" ∉ Text.entries sparseOrigins := by
    rw [hentries]
    decide
  have hlists : ¬ Text.ListsNothing sparseOrigins := by
    rw [← Text.entries_eq_nil_iff, hentries]
    exact List.cons_ne_nil _ _
  obtain ⟨ready, hstart, -, honly, -⟩ :=
    allowsOnly_entries_iff (by decide) hsetup hwildcard (by decide) (by decide)
  rw [hentries] at honly
  exact ⟨ready, hstart, honly.2 hlists⟩

/-- **Not every text that is not blank restricts the origins**: after a lone comma, a service
allows an origin that the text does not list. -/
theorem exists_start_with_unlisted_origin :
    Text.isBlank "," = false ∧ "*" ∉ Text.entries "," ∧
    (Site.setUp (onlyOrigins ",")).result = .ok (originSettings ",", Site.stock) ∧
    ∃ ready, (start (onlyOrigins ",")).result = .ok ready ∧
      ¬ AllowsOnly ready (Text.entries ",") ∧
      ∀ fresh now, ready.site.allowedOrigins ready.rule fresh now foreignRequest =
        [.ofVisible "https://evil.example.com" (by decide)] := by
  have hsetup : (Site.setUp (onlyOrigins ",")).result = .ok (originSettings ",", Site.stock) :=
    result_setUp_onlyOrigins (by decide)
  have hentries : Text.entries "," = [] := by decide
  obtain ⟨ready, hstart, -, hmirrors⟩ :=
    exists_start_mirrors (by decide) hsetup (by decide) (by decide) hentries
  refine ⟨by decide, by decide, hsetup, ready, hstart, ?_, fun fresh now => ?_⟩
  · rw [hentries]
    exact not_allowsOnly_of_mirrors hmirrors
  · rw [hmirrors]
    rfl

end DocPortal.Program.Server
