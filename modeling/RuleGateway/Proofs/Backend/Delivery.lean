import RuleGateway.Backend.Delivery

/-!
# Fields of delivered replies

Each step that makes the fields of a reply fit for the client touches a few names
only. The fields that tell about the exchange are set by one step and kept by
all steps after it, so they reach the client whatever the backend sent.
-/

namespace RuleGateway

theorem Headers.valuesOf_secured {headers : Headers} {name : Text} (h : name ∉ foreignPolicies)
    (hsts : name ≠ "strict-transport-security".toList) :
    headers.secured.valuesOf name = headers.valuesOf name := by
  rw [secured, valuesOf_insert, if_neg hsts, valuesOf_removeAll, if_neg h]

namespace Delivery

variable {name : Text}

theorem valuesOf_withCookies (headers : Headers) (h : name ≠ "set-cookie".toList) :
    (withCookies headers).valuesOf name = headers.valuesOf name := by
  rw [withCookies, Headers.valuesOf_replace, if_neg h]

theorem valuesOf_withLocation (visit : Location.Visit) (current target : Url)
    (location : Option Text) (headers : Headers) (h : name ≠ "location".toList) :
    (withLocation visit current target location headers).valuesOf name = headers.valuesOf name := by
  dsimp only [withLocation]
  split
  · rw [Headers.valuesOf_insert, if_neg h]
  · rfl

/-- The names that tell about the exchange. -/
def reported : List Text :=
  ["x-upstream-status", "x-upstream-location", "x-proxy-redirects-followed"]

theorem valuesOf_withReport (headers : Headers) (status followed : Nat) (h : name ∉ reported) :
    (withReport headers status followed).valuesOf name = headers.valuesOf name := by
  simp only [reported, List.mem_cons, List.not_mem_nil, or_false, not_or] at h
  obtain ⟨hstatus, hlocation, hfollowed⟩ := h
  unfold withReport
  rw [Headers.valuesOf_insert, if_neg hfollowed, Headers.valuesOf_insert, if_neg hlocation,
    Headers.valuesOf_insert, if_neg hstatus]

theorem valuesOf_withLocation_location (visit : Location.Visit) (current target : Url)
    (location : Option Text) (headers : Headers) :
    (withLocation visit current target location headers).valuesOf "location" =
      (((location.map (Location.forClient visit current target)).bind Location.value?).map
        ([·])).getD (headers.valuesOf "location") := by
  dsimp only [withLocation]
  cases (location.map (Location.forClient visit current target)).bind Location.value? with
  | none => rfl
  | some value => rw [Headers.valuesOf_insert, if_pos rfl, Option.map_some, Option.getD_some]

theorem valuesOf_withReport_status (headers : Headers) (status followed : Nat) :
    (withReport headers status followed).valuesOf "x-upstream-status" =
      [Utf8.encode (Text.ofNat status)] := by
  simp [withReport]

theorem valuesOf_withReport_followed (headers : Headers) (status followed : Nat) :
    (withReport headers status followed).valuesOf "x-proxy-redirects-followed" =
      [Utf8.encode (Text.ofNat followed)] := by
  simp [withReport]

variable (visit : Location.Visit) (current target : Url) (followed : Nat) (reply : Reply)

theorem response_status :
    (response visit current target followed reply).status = reply.status := by
  dsimp only [response]
  repeat' split
  all_goals rfl

/-- The response has the fields made for the client, except for the length of a
page whose links were moved. -/
theorem valuesOf_response (h : name ≠ "content-length".toList) :
    (response visit current target followed reply).headers.valuesOf name =
      (headers visit current target followed reply).valuesOf name := by
  dsimp only [response]
  repeat' split
  · rw [Headers.valuesOf_remove, if_neg h]
  all_goals rfl

/-- The names that are set or dropped after the exchange was reported. -/
def reworked : List Text :=
  Headers.foreignPolicies ++
    ["strict-transport-security".toList, "set-cookie", "location", "content-length"]

theorem valuesOf_response_of_not_mem_reworked (h : name ∉ reworked) :
    (response visit current target followed reply).headers.valuesOf name =
      (withReport (reply.headers.removeAll Inbound.hopFields) reply.status followed).valuesOf
        name := by
  simp only [reworked, List.mem_append, List.mem_cons, List.not_mem_nil, or_false, not_or] at h
  obtain ⟨hpolicy, hsts, hcookie, hlocation, hlength⟩ := h
  rw [valuesOf_response visit current target followed reply hlength, headers,
    valuesOf_withLocation _ _ _ _ _ hlocation, valuesOf_withCookies _ hcookie,
    Headers.valuesOf_secured hpolicy hsts]

theorem valuesOf_response_status :
    (response visit current target followed reply).headers.valuesOf "x-upstream-status" =
      [Utf8.encode (Text.ofNat reply.status)] := by
  rw [valuesOf_response_of_not_mem_reworked _ _ _ _ _ (by decide), valuesOf_withReport_status]

theorem valuesOf_response_followed :
    (response visit current target followed reply).headers.valuesOf "x-proxy-redirects-followed" =
      [Utf8.encode (Text.ofNat followed)] := by
  rw [valuesOf_response_of_not_mem_reworked _ _ _ _ _ (by decide), valuesOf_withReport_followed]

/-- The address that the client of a redirecting reply is to be sent to. -/
def address? (visit : Location.Visit) (current target : Url) (reply : Reply) : Option Text :=
  (location? reply.headers).map (Location.forClient visit current target)

/-- The location of a response is the rewritten one if that can be written, else what the
reply has. -/
theorem valuesOf_response_location :
    (response visit current target followed reply).headers.valuesOf "location" =
      (((address? visit current target reply).bind Location.value?).map ([·])).getD
        (reply.headers.valuesOf "location") := by
  have hkept : (reply.headers.removeAll Inbound.hopFields).valuesOf "location" =
      reply.headers.valuesOf "location" := by
    rw [Headers.valuesOf_removeAll, if_neg (by decide)]
  have hlocation : location? (reply.headers.removeAll Inbound.hopFields) =
      location? reply.headers := by
    rw [location?, Headers.get?, hkept]
    rfl
  rw [valuesOf_response _ _ _ _ _ (by decide), headers, valuesOf_withLocation_location, hlocation,
    valuesOf_withCookies _ (by decide), Headers.valuesOf_secured (by decide) (by decide),
    valuesOf_withReport _ _ _ (by decide), hkept, address?]

end Delivery

end RuleGateway
