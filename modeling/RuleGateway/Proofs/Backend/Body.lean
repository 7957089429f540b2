import RuleGateway.Proofs.Backend.Fields
import RuleGateway.Proofs.Page.Insertion

/-!
# Bodies that reach the client

A body is delivered as it came unless it is that of a page below a mount. Such a page is
read leniently as text, so what the client gets is the mounted form of what was read
(`HasBody.mounted`). The copies of the mount taken out of it are the body of the backend
exactly if that is a text (`HasBody.faithful_iff`). A length is only passed on with a body
that did not change (`HasBody.measured`).
-/

namespace RuleGateway

namespace Delivery

/-- What a response makes of the body of a reply. -/
structure HasBody (mount? : Option Text) (reply : Reply) (response : Response) : Prop where
  untouched : movesLinks mount? reply = false → response.body = reply.body
  unmeasured : movesLinks mount? reply → response.headers.valuesOf "content-length" = []
  measured : response.headers.valuesOf "content-length" ≠ [] → response.body = reply.body
  mounted : ∀ mount, mount? = some mount → isPage reply.headers →
    Links.IsMounted (Utf8.encode mount) (Utf8.encode (Utf8.decodeLossy reply.body)) response.body
  faithful_iff : ∀ mount, mount? = some mount → isPage reply.headers →
    (Links.IsMounted (Utf8.encode mount) reply.body response.body ↔ Utf8.IsText reply.body)

theorem hasBody_response (visit : Location.Visit) (current target : Url) (followed : Nat)
    (reply : Reply) :
    HasBody visit.mount reply (response visit current target followed reply) := by
  have huntouched (h : movesLinks visit.mount reply = false) :
      (response visit current target followed reply).body = reply.body := by
    rw [response_of_not_movesLinks _ _ _ _ _ h]
  have hunmeasured (h : movesLinks visit.mount reply) :
      (response visit current target followed reply).headers.valuesOf "content-length" = [] := by
    rw [valuesOf_response_length, if_pos h]
  constructor
  case untouched => exact huntouched
  case unmeasured => exact hunmeasured
  case measured =>
    intro hlength
    exact huntouched (Bool.eq_false_iff.2 fun hmoves => hlength (hunmeasured hmoves))
  case mounted =>
    intro mount hmount hpage
    rw [response_of_movesLinks _ _ _ _ _ hmount hpage]
    exact Links.isMounted_encode mount _
  case faithful_iff =>
    intro mount hmount hpage
    rw [response_of_movesLinks _ _ _ _ _ hmount hpage]
    exact Links.isMounted_iff mount reply.body

end Delivery

namespace Inbound

/-- The body of the response for a reply. -/
theorem forward_body {σ : Type} {inbound : Inbound} {network : Network σ} {limits : BackendLimits}
    {target : Text} {state : σ} {url current : Url} {followed : Nat} {reply : Reply}
    (h : inbound.IsAnswered network limits target state url current followed reply) :
    ∃ response, (inbound.forward network limits target state).1.response = some response ∧
      Delivery.HasBody inbound.visit.mount reply response :=
  ⟨_, h.response_eq, Delivery.hasBody_response ..⟩

/-- A page with a link from the root, and its length. -/
def linkedReply : Reply where
  status := 200
  headers := [("content-type", Utf8.encode "text/html"), ("content-length", Utf8.encode "26")]
  body := Utf8.encode "<a href=\"/guide\">guide</a>"

theorem plain_forward_body :
    plain.IsAnswered (.always linkedReply) {} "https://[::1]/" () homePage homePage 0 linkedReply ∧
      ∃ response,
        (plain.forward (.always linkedReply) {} "https://[::1]/" ()).1.response = some response ∧
        response.headers.valuesOf "content-length" = [] ∧
        Links.IsMounted (Utf8.encode "/docs") linkedReply.body response.body := by
  have hanswered : plain.IsAnswered (.always linkedReply) {} "https://[::1]/" () homePage homePage 0
      linkedReply := isAnswered_always parse_homePage (.inr (by decide +kernel))
  obtain ⟨response, hresponse, hbody⟩ := forward_body hanswered
  exact ⟨hanswered, response, hresponse, hbody.unmeasured (by decide +kernel),
    (hbody.faithful_iff "/docs" rfl (by decide +kernel)).2 ⟨_, rfl⟩⟩

/-- A page in Latin-1. -/
def latinReply : Reply where
  status := 200
  headers := [("content-type", Utf8.encode "text/html; charset=iso-8859-1")]
  body := [0x63, 0x61, 0x66, 0xE9]

/-- The last letter of the page is lost: however the mount is taken out of what the client
gets, the page does not come back. -/
theorem latinReply_garbled :
    ∃ response,
      (plain.forward (.always latinReply) {} "https://[::1]/" ()).1.response = some response ∧
      response.body = [0x63, 0x61, 0x66, 0xEF, 0xBF, 0xBD] ∧
      ¬ ∃ cuts : List Bytes, cuts.flatten = latinReply.body ∧
        (Utf8.encode "/docs").intercalate cuts = response.body := by
  have hforward : (plain.forward (.always latinReply) {} "https://[::1]/" ()).1.response.map
      (·.body) = some [0x63, 0x61, 0x66, 0xEF, 0xBF, 0xBD] := by decide +kernel
  obtain ⟨response, hresponse, hbody⟩ := Option.map_eq_some_iff.1 hforward
  refine ⟨response, hresponse, hbody, ?_⟩
  rintro ⟨cuts, hcuts, hdelivered⟩
  rw [hbody] at hdelivered
  have hmounted : Utf8.IsText ([] ++ (Utf8.encode "/docs").intercalate cuts) :=
    ⟨Utf8.decodeLossy latinReply.body, by rw [List.nil_append, hdelivered]; decide⟩
  have htext : Utf8.IsText cuts.flatten := Links.isText_flatten hmounted
  rw [hcuts] at htext
  exact absurd (Utf8.isSome_decode?_iff.2 htext) (by decide)

end Inbound

end RuleGateway
