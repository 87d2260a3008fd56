/-
What a problem's body tells. Read as JSON it is one object with six members
in their order, and they hold what the problem says, whatever characters
its texts have; so two problems that differ have different bodies. A GET
for a path that shows nothing is answered with such a body, and the path
in it is the path of the request's target (`body_tells_problem`).
-/
import DocPortal.Json.Reader
import DocPortal.Proofs.Http.Target
import DocPortal.Proofs.Site.PathTable

namespace DocPortal.Site

open Http Http.Cors

/-! ## Bodies -/

/-- Read as JSON, a text is one object with the members of a problem in their order. -/
def Tells (text timestamp : String) (code : Nat) (message path : String) : Prop :=
  Json.read text = some (.obj [
    ("timestamp", .str timestamp),
    ("status", .num code),
    ("error", .str ((StatusCode.phrases.lookup code).getD "Unknown")),
    ("message", .arr [.str message]),
    ("path", .str path),
    ("validationErrors", .null)])

theorem tells_compact (problem : Problem) :
    Tells problem.toJson.compact problem.timestamp problem.status.code problem.message
      problem.path :=
  Json.read_compact problem.toJson

/-- A text tells one problem and no other. -/
theorem Tells.eq {text timestamp otherTimestamp message otherMessage path otherPath : String}
    {code otherCode : Nat} (h : Tells text timestamp code message path)
    (hother : Tells text otherTimestamp otherCode otherMessage otherPath) :
    timestamp = otherTimestamp ∧ code = otherCode ∧ message = otherMessage ∧ path = otherPath := by
  have hread := Option.some.inj (h.symm.trans hother)
  simp only [Json.obj.injEq, List.cons.injEq, Prod.mk.injEq, Json.str.injEq, Json.num.injEq,
    Json.arr.injEq] at hread
  obtain ⟨⟨-, htimestamp⟩, ⟨-, hcode⟩, -, ⟨-, hmessage, -⟩, ⟨-, hpath⟩, -⟩ := hread
  exact ⟨htimestamp, hcode, hmessage, hpath⟩

theorem compact_toJson_eq_iff {a b : Problem} :
    a.toJson.compact = b.toJson.compact ↔ a = b := by
  refine ⟨fun h => ?_, fun h => h ▸ rfl⟩
  have ha := tells_compact a
  rw [h] at ha
  obtain ⟨htimestamp, hcode, hmessage, hpath⟩ := ha.eq (tells_compact b)
  obtain ⟨timestamp, ⟨code, _⟩, message, path⟩ := a
  obtain ⟨timestamp', ⟨code', _⟩, message', path'⟩ := b
  simp only at htimestamp hcode hmessage hpath
  subst htimestamp hcode hmessage hpath
  rfl

theorem exists_statusCode {code : Nat} (h : 100 ≤ code ∧ code ≤ 999) :
    ∃ status, StatusCode.ofNat? code = some status ∧ status.code = code :=
  ⟨⟨code, h⟩, dif_pos h, rfl⟩

/-! ## Answers -/

/-- The answer to a GET for a path that shows nothing. -/
theorem answer_of_missing (site : Site) (rule : OriginRule) (fresh : Uuid) (now : String)
    {request : Request} (hget : request.method = .get)
    (hmissing : ∀ text, ¬ site.Shows request.path text) :
    (site.answer rule fresh now request).response.status = .notFound ∧
      (site.answer rule fresh now request).response.body = (Problem.toJson {
        timestamp := now, status := .notFound, message := "Resource not found",
        path := request.path }).compact := by
  have hoptions : request.method ≠ .options := by rw [hget]; decide
  have hhead : request.method ≠ .head := by rw [hget]; decide
  obtain ⟨hstatus, hbody⟩ := (isTabled_answer site rule fresh now hoptions).missing hmissing
  exact ⟨hstatus, hbody hhead⟩

/-- **A body tells its problem**: for every status code and all texts it is read as an object with
the six members in their order, and no other problem has it. A GET for a path that shows nothing is
answered with a body that tells the path its target has. -/
theorem body_tells_problem :
    (∀ code, 100 ≤ code ∧ code ≤ 999 →
      ∃ status, StatusCode.ofNat? code = some status ∧ ∀ timestamp message path,
        Tells (Problem.toJson { timestamp, status, message, path }).compact timestamp code message
          path) ∧
    (∀ a b : Problem, a.toJson.compact = b.toJson.compact ↔ a = b) ∧
    ∀ (site : Site) (rule : OriginRule) (fresh : Uuid) (now : String) (request : Request),
      request.method = .get → (∀ text, ¬ site.Shows request.path text) →
      let response := (site.answer rule fresh now request).response
      response.status = .notFound ∧ (∀ path, HasPath request.target path ↔ path = request.path) ∧
        Tells response.body now 404 "Resource not found" request.path := by
  refine ⟨fun code hcode => ?_, fun a b => compact_toJson_eq_iff,
    fun site rule fresh now request hget hmissing => ?_⟩
  · obtain ⟨status, hstatus, rfl⟩ := exists_statusCode hcode
    exact ⟨status, hstatus, fun timestamp message path => tells_compact _⟩
  · obtain ⟨hstatus, hbody⟩ := answer_of_missing site rule fresh now hget hmissing
    refine ⟨hstatus, fun path => ?_, ?_⟩
    · rw [← path_eq_iff_hasPath]
      exact eq_comm
    · rw [hbody]
      exact tells_compact _

/-- A request for an address whose path looks like the end of a JSON text. -/
def hostileRequest : Request where
  target := "http://h/docs\"]\x7d/%22?a=/#/b"

theorem body_tells_problem_hostileRequest :
    (100 ≤ 799 ∧ 799 ≤ 999) ∧
    (∃ status, StatusCode.ofNat? 799 = some status ∧
      Tells (Problem.toJson ⟨"now", status, "\"\\\x01</\n\x7d", "\\u0022"⟩).compact "now" 799
        "\"\\\x01</\n\x7d" "\\u0022") ∧
    hostileRequest.method = .get ∧ (∀ text, ¬ stock.Shows hostileRequest.path text) ∧
    Tells (stock.answer .unrestricted ⟨7⟩ "now" hostileRequest).response.body "now" 404
      "Resource not found" "/docs\"]\x7d/%22" := by
  obtain ⟨hcodes, -, hanswers⟩ := body_tells_problem
  have hpath : hostileRequest.path = "/docs\"]\x7d/%22" := by decide +kernel
  have hmissing : ∀ text, ¬ stock.Shows hostileRequest.path text := by
    intro text hshows
    obtain ⟨document, hdocument, -⟩ := shows_iff.1 hshows
    rw [hpath] at hdocument
    exact absurd hdocument (by cases document <;> decide)
  obtain ⟨status, hstatus, htells⟩ := hcodes 799 (by decide)
  obtain ⟨-, -, htold⟩ := hanswers stock .unrestricted ⟨7⟩ "now" hostileRequest rfl hmissing
  rw [hpath] at htold
  exact ⟨by decide, ⟨status, hstatus, htells _ _ _⟩, rfl, hmissing, htold⟩

end DocPortal.Site
