import Mathlib.Data.List.Forall2
import RuleGateway.Proofs.Backend.Fields
import RuleGateway.Proofs.Http.Cookie
import RuleGateway.Proofs.Text.WellFormed

/-!
# Cookies that reach the client

The cookies of a reply are delivered one for one and in their order. Of each the parts
that are no domain are kept in order (`IsPassedOn`). On the way a cookie is read as a
text, so that a part whose bytes are none comes out with other bytes: what is kept of a
cookie is delivered byte for byte exactly if its parts are texts (`forward_cookies`).
-/

namespace RuleGateway

namespace Utf8

/-- A character of ASCII in bytes that are read leniently is there as its byte. -/
theorem mem_of_mem_decodeLossy {c : Char} (hc : c.toNat < 0x80) {bytes : Bytes}
    (h : c ∈ decodeLossy bytes) : c.toNat.toUInt8 ∈ bytes := by
  obtain ⟨mark, hmark, hread⟩ := List.mem_map.1 h
  cases mark with
  | none =>
    subst hread
    exact absurd hc (by decide)
  | some d =>
    obtain rfl : d = c := hread
    exact mem_of_mem_marks hc isReached_none hmark

/-- Bytes around a byte of ASCII are read by themselves. -/
theorem decodeLossy_append_ascii {b : UInt8} (hb : b.toNat < 0x80) (front back : Bytes) :
    decodeLossy (front ++ b :: back) =
      decodeLossy front ++ Char.ofNat b.toNat :: decodeLossy back := by
  rw [decodeLossy, marks_append_ascii isReached_none hb, List.map_append]
  rfl

end Utf8

namespace Cookie

section Parts

/-- The byte between the parts of a cookie. -/
def semicolon : UInt8 := 0x3B

theorem not_mem_of_mem_splitOn {value part : Bytes} (h : part ∈ value.splitOn semicolon) :
    semicolon ∉ part := by
  induction value generalizing part with
  | nil =>
    rw [List.splitOn_nil, List.mem_singleton] at h
    rw [h]
    exact List.not_mem_nil
  | cons b value ih =>
    rw [List.splitOn_cons_eq_if_modifyHead] at h
    split at h
    · rcases List.mem_cons.1 h with rfl | hrest
      · exact List.not_mem_nil
      · exact ih hrest
    · rename_i hb
      obtain ⟨first, parts, hparts⟩ :=
        List.exists_cons_of_ne_nil (List.splitOn_ne_nil semicolon value)
      rw [hparts] at h ih
      rcases List.mem_cons.1 h with rfl | hrest
      · rw [List.mem_cons, not_or]
        exact ⟨fun hsame => hb (by simp [hsame]), ih List.mem_cons_self⟩
      · exact ih (List.mem_cons_of_mem _ hrest)

/-- The bytes of a cookie and of the parts of it are read alike. -/
theorem decodeLossy_intercalate (parts : List Bytes) :
    Utf8.decodeLossy ([semicolon].intercalate parts) =
      Text.join ';' (parts.map Utf8.decodeLossy) := by
  match parts with
  | [] => rfl
  | [part] => simp [Text.join]
  | part :: next :: parts =>
    have ih := decodeLossy_intercalate (next :: parts)
    rw [List.intercalate_cons_cons, List.append_assoc, List.singleton_append,
      Utf8.decodeLossy_append_ascii (by decide), ih]
    rfl

theorem encode_join (parts : List Text) :
    Utf8.encode (Text.join ';' parts) = [semicolon].intercalate (parts.map Utf8.encode) := by
  match parts with
  | [] => rfl
  | [part] => simp [Text.join]
  | part :: next :: parts =>
    have ih := encode_join (next :: parts)
    rw [List.map_cons] at ih
    rw [List.map_cons, List.map_cons, List.intercalate_cons_cons, ← ih, Text.join,
      Utf8.encode_append, Utf8.encode_cons, List.append_assoc]
    · rfl
    · simp

theorem split_decodeLossy (value : Bytes) :
    Text.split ';' (Utf8.decodeLossy value) = (value.splitOn semicolon).map Utf8.decodeLossy := by
  have hjoined : [semicolon].intercalate (value.splitOn semicolon) = value :=
    List.intercalate_splitOn semicolon
  conv => lhs; rw [← hjoined, decodeLossy_intercalate]
  apply Text.split_join
  · simp
  · intro part hpart hmem
    obtain ⟨bytes, hbytes, rfl⟩ := List.mem_map.1 hpart
    exact not_mem_of_mem_splitOn hbytes (Utf8.mem_of_mem_decodeLossy (by decide) hmem)

/-- The parts of a cookie that are kept: its name and value, and every attribute but a
domain as it is usually written. -/
def kept (value : Bytes) : List Bytes :=
  match value.splitOn semicolon with
  | [] => []
  | pair :: parts => pair :: parts.filter fun part => ¬ WritesDomain (Utf8.decodeLossy part)

/-- Bytes as they are written again after they were read leniently. -/
def respelled (bytes : Bytes) : Bytes := Utf8.encode (Utf8.decodeLossy bytes)

variable {value part : Bytes}

theorem not_mem_respelled (h : semicolon ∉ part) : semicolon ∉ respelled part := by
  intro hmem
  have hread : ';' ∈ Utf8.decodeLossy part := Utf8.mem_of_mem_encode (by decide) hmem
  exact h (Utf8.mem_of_mem_decodeLossy (by decide) hread)

theorem exists_kept (value : Bytes) :
    ∃ pair parts, value.splitOn semicolon = pair :: parts ∧
      kept value = pair :: parts.filter fun part => ¬ WritesDomain (Utf8.decodeLossy part) := by
  obtain ⟨pair, parts, hsplit⟩ :=
    List.exists_cons_of_ne_nil (List.splitOn_ne_nil semicolon value)
  exact ⟨pair, parts, hsplit, by rw [kept, hsplit]⟩

theorem not_mem_of_mem_kept (h : part ∈ kept value) : semicolon ∉ part := by
  obtain ⟨pair, parts, hsplit, hkept⟩ := exists_kept value
  rw [hkept] at h
  apply not_mem_of_mem_splitOn
  rw [hsplit]
  exact List.cons_subset_cons pair (List.filter_subset_self parts) h

/-- What is written of a cookie without its domain is what is kept of its parts, read as
texts and written again. -/
theorem encode_withoutDomain (value : Bytes) :
    Utf8.encode (withoutDomain (Utf8.decodeLossy value)) =
      [semicolon].intercalate ((kept value).map respelled) := by
  obtain ⟨pair, parts, hsplit, hkept⟩ := exists_kept value
  have hread := split_decodeLossy value
  rw [hsplit, List.map_cons] at hread
  have hdomain (part : Text) : isDomain part = decide (WritesDomain part) := by
    rw [Bool.eq_iff_iff, decide_eq_true_iff, isDomain_iff]
  rw [← Text.join_split ';' (withoutDomain _), split_withoutDomain hread, encode_join, hkept,
    List.filter_map, List.map_cons, List.map_map, List.map_cons]
  simp only [Function.comp_def, hdomain, decide_not]
  rfl

/-- How a cookie is passed on: what is kept of it, part by part and in order, unchanged
exactly if every part is a text. -/
structure IsPassedOn (sent got : Bytes) : Prop where
  parts : got = [semicolon].intercalate ((kept sent).map respelled)
  unchanged_iff : got = [semicolon].intercalate (kept sent) ↔ ∀ part ∈ kept sent, Utf8.IsText part
  exact_iff : (∀ part ∈ (sent.splitOn semicolon).tail, ¬ WritesDomain (Utf8.decodeLossy part)) →
    (got = sent ↔ Utf8.IsText sent)

theorem intercalate_respelled_iff {parts : List Bytes} (hne : parts ≠ [])
    (h : ∀ part ∈ parts, semicolon ∉ part) :
    [semicolon].intercalate (parts.map respelled) = [semicolon].intercalate parts ↔
      ∀ part ∈ parts, Utf8.IsText part := by
  have hrespelled : ∀ part ∈ parts.map respelled, semicolon ∉ part := by
    intro part hpart
    obtain ⟨bytes, hbytes, rfl⟩ := List.mem_map.1 hpart
    exact not_mem_respelled (h bytes hbytes)
  have hparts : [semicolon].intercalate (parts.map respelled) = [semicolon].intercalate parts ↔
      parts.map respelled = parts := by
    refine ⟨fun hjoined => ?_, fun hsame => by rw [hsame]⟩
    have hcut := congrArg (List.splitOn semicolon) hjoined
    rwa [List.splitOn_intercalate semicolon hrespelled (by simpa using hne),
      List.splitOn_intercalate semicolon h hne] at hcut
  rw [hparts]
  conv => lhs; rhs; rw [← List.map_id parts]
  rw [List.map_inj_left]
  exact forall₂_congr fun part _ => Utf8.encode_decodeLossy_iff

theorem isPassedOn_withoutDomain (value : Bytes) :
    IsPassedOn value (Utf8.encode (withoutDomain (Utf8.decodeLossy value))) := by
  constructor
  case parts => exact encode_withoutDomain value
  case unchanged_iff =>
    rw [encode_withoutDomain]
    apply intercalate_respelled_iff
    · obtain ⟨pair, parts, -, hkept⟩ := exists_kept value
      rw [hkept]
      exact List.cons_ne_nil _ _
    · exact fun part hpart => not_mem_of_mem_kept hpart
  case exact_iff =>
    intro hnone
    have hall : ∀ part ∈ attributes (Utf8.decodeLossy value), ¬ WritesDomain part := by
      rw [attributes, split_decodeLossy, ← List.map_tail, List.forall_mem_map]
      exact hnone
    rw [withoutDomain_eq_self hall, Utf8.encode_decodeLossy_iff]

end Parts

end Cookie

namespace Inbound

variable {σ : Type} {inbound : Inbound} {network : Network σ} {limits : BackendLimits}
variable {target : Text} {state : σ} {url current : Url} {followed : Nat} {reply : Reply}

/-- The client gets every cookie of the reply, each passed on without its domain. -/
theorem forward_cookies
    (h : inbound.IsAnswered network limits target state url current followed reply)
    (hallowed : ∀ value ∈ reply.headers.valuesOf "set-cookie", HeaderValue.isAllowed value) :
    ∃ response, (inbound.forward network limits target state).1.response = some response ∧
      List.Forall₂ Cookie.IsPassedOn (reply.headers.valuesOf "set-cookie")
        (response.headers.valuesOf "set-cookie") := by
  have hfields := Delivery.hasFields_response inbound.visit current url followed reply
  refine ⟨_, h.response_eq, ?_⟩
  have hvalues : (reply.headers.valuesOf "set-cookie").filterMap Delivery.cookie? =
      (reply.headers.valuesOf "set-cookie").map fun value =>
        Utf8.encode (Cookie.withoutDomain (Utf8.decodeLossy value)) := by
    rw [← List.filterMap_eq_map]
    apply List.filterMap_congr
    intro value hvalue
    exact hfields.cookies_kept value hvalue (hallowed value hvalue)
  rw [hfields.cookies, hvalues, List.forall₂_map_right_iff, List.forall₂_same]
  exact fun value _ => Cookie.isPassedOn_withoutDomain value

/-- A reply with a cookie that has a domain, one whose name is that of the attribute, and
one in another script. -/
def bakedReply : Reply where
  status := 200
  headers :=
    [("set-cookie", Utf8.encode "sid=1; Domain=up.example; Path=/"),
      ("set-cookie", Utf8.encode "domain=x; Secure"), ("set-cookie", Utf8.encode "name=é")]

theorem plain_forward_cookies :
    plain.IsAnswered (.always bakedReply) {} "https://[::1]/" () homePage homePage 0 bakedReply ∧
      (∀ value ∈ bakedReply.headers.valuesOf "set-cookie", HeaderValue.isAllowed value) ∧
      ∃ response,
        (plain.forward (.always bakedReply) {} "https://[::1]/" ()).1.response = some response ∧
        List.Forall₂ Cookie.IsPassedOn
          [Utf8.encode "sid=1; Domain=up.example; Path=/", Utf8.encode "domain=x; Secure",
            Utf8.encode "name=é"]
          (response.headers.valuesOf "set-cookie") := by
  have hanswered : plain.IsAnswered (.always bakedReply) {} "https://[::1]/" () homePage homePage 0
      bakedReply := isAnswered_always parse_homePage (.inr (by decide +kernel))
  have hallowed : ∀ value ∈ bakedReply.headers.valuesOf "set-cookie",
      HeaderValue.isAllowed value := by decide +kernel
  obtain ⟨response, hresponse, hcookies⟩ := forward_cookies hanswered hallowed
  exact ⟨hanswered, hallowed, response, hresponse, hcookies⟩

/-- A reply with a cookie in Latin-1. -/
def latinCookieReply : Reply where
  status := 200
  headers := [("set-cookie", [0x61, 0x3D, 0xE9])]

/-- A cookie without a domain whose value is no text reaches the client with another value. -/
theorem latinCookieReply_damaged :
    (∀ value ∈ latinCookieReply.headers.valuesOf "set-cookie", HeaderValue.isAllowed value) ∧
      (∀ part ∈ (List.splitOn Cookie.semicolon [0x61, 0x3D, 0xE9]).tail,
        ¬ Cookie.WritesDomain (Utf8.decodeLossy part)) ∧
      ∃ response,
        (plain.forward (.always latinCookieReply) {} "https://[::1]/" ()).1.response =
          some response ∧
        response.headers.valuesOf "set-cookie" = [[0x61, 0x3D, 0xEF, 0xBF, 0xBD]] := by
  have hforward : (plain.forward (.always latinCookieReply) {} "https://[::1]/" ()).1.response.map
      (·.headers.valuesOf "set-cookie") = some [[0x61, 0x3D, 0xEF, 0xBF, 0xBD]] := by
    decide +kernel
  obtain ⟨response, hresponse, hvalues⟩ := Option.map_eq_some_iff.1 hforward
  exact ⟨by decide +kernel, by decide, response, hresponse, hvalues⟩

end Inbound

end RuleGateway
