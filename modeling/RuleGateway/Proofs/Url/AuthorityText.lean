import RuleGateway.Proofs.Url.Authority
import RuleGateway.Proofs.Url.Host

/-!
# Authorities as text

An authority that was read is read again as it is written, with its credentials,
its host and its port (`parseAuthority_render`), and what is written is the start of
an address (`isLead_render`).
-/

namespace RuleGateway.Url

open Percent

section Steps

variable {α β : Type} {found : Except UrlError α} {b : β}

theorem exists_of_map_eq_ok {f : α → β} (h : found.map f = .ok b) :
    ∃ a, found = .ok a ∧ f a = b := by
  cases found with
  | error error => cases h
  | ok a => exact ⟨a, rfl, Except.ok.inj h⟩

theorem exists_of_bind_eq_ok {f : α → Except UrlError β} (h : found.bind f = .ok b) :
    ∃ a, found = .ok a ∧ f a = .ok b := by
  cases found with
  | error error => cases h
  | ok a => exact ⟨a, rfl, h⟩

end Steps

section Authority

variable {scheme zone : Text}

/-- The port behind a host, and what follows it. -/
def portOf (scheme behind : Text) : Except UrlError (Option Nat × Text) :=
  match behind with
  | ':' :: digits => parsePort scheme digits
  | _ => .ok (none, behind)

theorem portOf_of_ne_colon {behind : Text} (h : behind.head? ≠ some ':') :
    portOf scheme behind = .ok (none, behind) := by
  rw [portOf.eq_def]
  split
  · exact absurd rfl h
  · rfl

/-- An authority is read in steps: the zone up to its end, the credentials before the
last at sign, the host, and the port. -/
theorem parseAuthority_eq (scheme input : Text) {zone after user place : Text}
    (hzone : input.takeWhile (fun c => !endsAuthority (.of scheme) c) = zone)
    (hafter : input.dropWhile (fun c => !endsAuthority (.of scheme) c) = after)
    (hcut : (cutAtLastAt zone).getD ([], zone) = (user, place)) {name behind : Text}
    (hname : place.take (hostLength (.of scheme) false place) = name)
    (hbehind : place.drop (hostLength (.of scheme) false place) = behind) :
    parseAuthority scheme input =
      if (cutAtLastAt zone).isSome ∧ user.isEmpty ∧ place.isEmpty ∧ !after.isEmpty then
        .error .emptyHost
      else (do
        let found ← hostOf (.of scheme) name (behind ++ after)
        let port ← portOf scheme (behind ++ after)
        let authority : Authority :=
          { username := (credentials user).1, password := (credentials user).2, host := found,
            port := port.1 }
        if found.isNone ∧ authority.hasCredentials then .error .emptyHost
        else .ok (authority, port.2)) := by
  have hwhole := List.takeWhile_append_dropWhile
    (p := fun c => !endsAuthority (.of scheme) c) (l := input)
  rw [hzone, hafter] at hwhole
  have hdrop : input.drop zone.length = after := by rw [← hwhole, List.drop_left]
  simp only [parseAuthority, hzone, hdrop, hcut, hname, hbehind]
  split
  · rfl
  generalize behind ++ after = rest
  cases hostOf (.of scheme) name rest with
  | error error => rfl
  | ok found =>
    split
    · rfl
    · rename_i hport
      have hnone : portOf scheme rest = .ok (none, rest) := portOf_of_ne_colon fun hcolon => by
        obtain ⟨digits, rfl⟩ := List.head?_eq_some_iff.1 hcolon
        exact hport digits rfl
      rw [hnone]
      rfl

/-- What an authority is read from: its credentials, its host, and what stands behind it. -/
theorem exists_of_parseAuthority {input rest : Text} {authority : Authority}
    (h : parseAuthority scheme input = .ok (authority, rest)) :
    ∃ user name behind, authority.username = (credentials user).1 ∧
      authority.password = (credentials user).2 ∧
      hostOf (.of scheme) name behind = .ok authority.host ∧
      portOf scheme behind = .ok (authority.port, rest) ∧
      (authority.host = none → authority.hasCredentials = false) := by
  obtain ⟨zone, hzone⟩ : ∃ zone, input.takeWhile (fun c => !endsAuthority (.of scheme) c) = zone :=
    ⟨_, rfl⟩
  obtain ⟨user, place, hcut⟩ : ∃ user place, (cutAtLastAt zone).getD ([], zone) = (user, place) :=
    ⟨_, _, rfl⟩
  rw [parseAuthority_eq scheme input hzone rfl hcut rfl rfl] at h
  split at h
  · cases h
  · obtain ⟨host, hhost, h⟩ := exists_of_bind_eq_ok h
    obtain ⟨port, hport, h⟩ := exists_of_bind_eq_ok h
    dsimp only at h
    split at h
    · cases h
    · rename_i hcredentials
      cases h
      refine ⟨_, _, _, rfl, rfl, hhost, hport, ?_⟩
      rintro rfl
      simpa using hcredentials

/-- An authority by itself: credentials up to the last at sign, a host, and a port. -/
theorem parseAuthority_zone (hweb : SchemeKind.of scheme = .web)
    (hzone : ∀ c ∈ zone, endsAuthority .web c = false) {user place : Text}
    (hcut : (cutAtLastAt zone).getD ([], zone) = (user, place)) :
    parseAuthority scheme zone =
      if (place.take (hostLength .web false place)).isEmpty then .error .emptyHost
      else (do
        let host ← parseHost (place.take (hostLength .web false place))
        let port ← portOf scheme (place.drop (hostLength .web false place))
        pure ({ username := (credentials user).1, password := (credentials user).2,
                host := some host, port := port.1 }, port.2)) := by
  have hkept : ∀ c ∈ zone, (!endsAuthority (.of scheme) c) = true := fun c hc => by
    rw [hweb, hzone c hc]
    rfl
  rw [parseAuthority_eq scheme zone (List.takeWhile_eq_self_iff.2 hkept)
    (List.dropWhile_eq_nil_iff.2 hkept) hcut rfl rfl, if_neg (by simp), List.append_nil, hweb, hostOf_web]
  split
  · rfl
  · cases parseHost (place.take (hostLength .web false place)) with
    | error error => rfl
    | ok host => cases portOf scheme (place.drop (hostLength .web false place)) <;> rfl

/-- What an authority is that a text is read as. -/
structure IsAuthority (scheme : Text) (authority : Authority) : Prop where
  username : ∃ text, authority.username = encode inCredentialSet text
  password : ∃ text, authority.password = encode inCredentialSet text
  host : ∃ host, authority.host = some host ∧ IsHost host
  port : ∀ port ∈ authority.port, port ≤ 65535 ∧ defaultPort? scheme ≠ some port

theorem port_of_parsePort {digits rest : Text} {port : Option Nat}
    (h : parsePort scheme digits = .ok (port, rest)) :
    ∀ n ∈ port, n ≤ 65535 ∧ defaultPort? scheme ≠ some n := by
  rw [parsePort] at h
  split at h
  · split at h
    · cases h
      exact fun n hn => by cases hn
    · cases h
  · split at h
    · cases h
    · rename_i hbound
      split at h
      · cases h
      · cases h
        intro n hn
        split at hn
        · cases hn
        · rename_i hdefault
          cases hn
          exact ⟨Nat.le_of_not_lt hbound, hdefault⟩

theorem port_of_portOf {behind rest : Text} {port : Option Nat}
    (h : portOf scheme behind = .ok (port, rest)) :
    ∀ n ∈ port, n ≤ 65535 ∧ defaultPort? scheme ≠ some n := by
  rw [portOf.eq_def] at h
  split at h
  · exact port_of_parsePort h
  · cases h
    exact fun n hn => by cases hn

theorem isAuthority_of_parseAuthority (hweb : SchemeKind.of scheme = .web) {authority : Authority}
    {input rest : Text} (h : parseAuthority scheme input = .ok (authority, rest)) :
    IsAuthority scheme authority := by
  obtain ⟨user, name, behind, husername, hpassword, hfound, hport, -⟩ := exists_of_parseAuthority h
  rw [hweb, hostOf_web] at hfound
  split at hfound
  · cases hfound
  · obtain ⟨host, hread, hhost⟩ := exists_of_map_eq_ok hfound
    exact ⟨⟨_, husername⟩, ⟨_, hpassword⟩, ⟨host, hhost.symm, isHost_of_parseHost hread⟩,
      port_of_portOf hport⟩

end Authority

section Characters

/-- Whether a character may stand in a written authority. -/
def IsZoneChar (c : Char) : Prop :=
  isOuter c = false ∧ endsAuthority .web c = false ∧ isControl c = false

instance : DecidablePred IsZoneChar := fun c =>
  inferInstanceAs (Decidable (isOuter c = false ∧ endsAuthority .web c = false ∧
    isControl c = false))

theorem of_isAllowed {c : Char} (h : Domain.IsAllowed c) : IsZoneChar c ∧ c ∉ "@:[]".toList := by
  have hall : ∀ n < 128, Domain.isForbidden (Char.ofNat n) = false →
      IsZoneChar (Char.ofNat n) ∧ Char.ofNat n ∉ "@:[]".toList := by decide
  exact Text.forall_ascii
    (p := fun c => Domain.isForbidden c = false → IsZoneChar c ∧ c ∉ "@:[]".toList) hall h.1 h.2

theorem of_mem_encode_credentials {text : Text} {c : Char} (h : c ∈ encode inCredentialSet text) :
    IsZoneChar c ∧ c ∉ "@:".toList := by
  rcases mem_encode h with ⟨-, hleft⟩ | hescape
  · rw [isEscaped, Bool.or_eq_false_iff, decide_eq_false_iff_not, Nat.not_le] at hleft
    have hall : ∀ n < 128, inCredentialSet (Char.ofNat n) = false →
        IsZoneChar (Char.ofNat n) ∧ Char.ofNat n ∉ "@:".toList := by decide
    exact Text.forall_ascii
      (p := fun c => inCredentialSet c = false → IsZoneChar c ∧ c ∉ "@:".toList) hall
      hleft.1 hleft.2
  · have hall : ∀ d ∈ '%' :: Text.hexDigits, IsZoneChar d ∧ d ∉ "@:".toList :=
      Text.forall_mem (by decide)
    exact hall c hescape

/-- The characters of a port with its colon, or of no port. -/
def portText (port : Option Nat) : Text := (port.map fun port => ':' :: Text.ofNat port).getD []

theorem of_mem_portText {port : Option Nat} {c : Char} (h : c ∈ portText port) :
    IsZoneChar c ∧ c ≠ '@' := by
  have hall : ∀ d ∈ ':' :: "0123456789".toList, IsZoneChar d ∧ d ≠ '@' :=
    Text.forall_mem (by decide)
  cases port with
  | none => cases h
  | some port =>
    rcases List.mem_cons.1 h with rfl | hmem
    · exact hall ':' List.mem_cons_self
    · exact hall c (List.mem_cons_of_mem _ (mem_ofNat hmem))

/-- What ends an authority of some scheme ends one of the web. -/
theorem endsAuthority_of_web {c : Char} (h : endsAuthority .web c = false) (kind : SchemeKind) :
    endsAuthority kind c = false := by
  rw [endsAuthority_web] at h
  simp only [isAnySlash, Bool.or_eq_false_iff] at h
  simp [endsAuthority, isSlash, h]

theorem ended_of_stops {kind : SchemeKind} {rest : Text}
    (h : Text.Stops (fun c => !endsAuthority kind c) rest) : Ended rest := by
  intro c hc
  have hends := h c hc
  dsimp only at hends ⊢
  rw [Bool.not_eq_false'] at hends ⊢
  cases hweb : endsAuthority .web c with
  | true => rfl
  | false =>
    rw [endsAuthority_of_web hweb kind] at hends
    cases hends

/-- Whether a character may stand in a written host outside brackets. -/
def IsHostChar (c : Char) : Prop := c.toNat < 0x80 ∧ IsZoneChar c ∧ c ∉ "@:[]".toList

instance : DecidablePred IsHostChar := fun c =>
  inferInstanceAs (Decidable (c.toNat < 0x80 ∧ IsZoneChar c ∧ c ∉ "@:[]".toList))

/-- What a host is written as: an address in brackets, or characters that end no host. -/
def IsHostText (text : Text) : Prop :=
  text ≠ [] ∧ ((∀ c ∈ text, IsHostChar c) ∨ ∃ pieces, text = (Host.v6 pieces).render)

theorem isHostText_render {host : Host} (h : IsHost host) : IsHostText host.render := by
  refine ⟨render_ne_nil h, (allowed_render h).imp ?_ ?_⟩
  · exact fun hallowed c hc => ⟨(hallowed c hc).1, of_isAllowed (hallowed c hc)⟩
  · rintro ⟨pieces, rfl⟩
    exact ⟨pieces, rfl⟩

theorem IsHostText.of_mem {text : Text} (h : IsHostText text) {c : Char} (hc : c ∈ text) :
    c.toNat < 0x80 ∧ IsZoneChar c ∧ c ≠ '@' := by
  rcases h.2 with hplain | ⟨pieces, rfl⟩
  · obtain ⟨hascii, hzone, hmarks⟩ := hplain c hc
    refine ⟨hascii, hzone, ?_⟩
    rintro rfl
    exact hmarks (by decide)
  · have hall : ∀ d ∈ '[' :: ']' :: ':' :: Text.hexDigits,
        d.toNat < 0x80 ∧ IsZoneChar d ∧ d ≠ '@' := Text.forall_mem (by decide)
    refine hall c ?_
    rw [Host.render, List.mem_append, List.mem_cons] at hc
    rcases hc with (rfl | hmem) | hend
    · exact List.mem_cons_self
    · exact List.mem_cons_of_mem _ (List.mem_cons_of_mem _ (Ip.mem_renderV6 hmem))
    · exact List.mem_cons_of_mem _ (List.mem_cons.2 (.inl (List.mem_singleton.1 hend)))

theorem hostLength_append {kind : SchemeKind} {inside : Bool} {front : Text}
    (h : ∀ c ∈ front, endsAuthority kind c = false ∧ c ≠ '[' ∧ c ≠ ']' ∧ (c = ':' → inside = true))
    (back : Text) :
    hostLength kind inside (front ++ back) = front.length + hostLength kind inside back := by
  induction front with
  | nil => simp
  | cons c front ih =>
    obtain ⟨hends, hopen, hclose, hcolon⟩ := h c List.mem_cons_self
    have hgoes : ¬ (c = ':' ∧ (!inside) = true ∨ endsAuthority kind c = true) := by
      rintro (⟨hc, houtside⟩ | hend)
      · rw [hcolon hc] at houtside
        cases houtside
      · rw [hends] at hend
        cases hend
    rw [List.cons_append, hostLength, if_neg hgoes, if_neg hopen, if_neg hclose,
      ih fun d hd => h d (List.mem_cons_of_mem c hd), List.length_cons]
    omega

/-- A host ends where its port starts. -/
theorem IsHostText.hostLength_eq {text : Text} (h : IsHostText text) (kind : SchemeKind)
    (port : Option Nat) : hostLength kind false (text ++ portText port) = text.length := by
  have hport : hostLength kind false (portText port) = 0 := by
    cases port with
    | none => rfl
    | some port => rw [portText, Option.map_some, Option.getD_some, hostLength, if_pos (by simp)]
  rcases h.2 with hplain | ⟨pieces, rfl⟩
  · rw [hostLength_append (fun c hc => ?_), hport, Nat.add_zero]
    obtain ⟨-, hzone, hmarks⟩ := hplain c hc
    refine ⟨endsAuthority_of_web hzone.2.1 kind, ?_, ?_, ?_⟩ <;> rintro rfl <;>
      exact absurd (by decide) hmarks
  · have hall : ∀ d ∈ ':' :: Text.hexDigits,
        endsAuthority .web d = false ∧ d ≠ '[' ∧ d ≠ ']' := Text.forall_mem (by decide)
    have hinside : ∀ c ∈ Ip.renderV6 pieces,
        endsAuthority kind c = false ∧ c ≠ '[' ∧ c ≠ ']' ∧ (c = ':' → true = true) := by
      intro c hc
      obtain ⟨hends, hopen, hclose⟩ := hall c (Ip.mem_renderV6 hc)
      exact ⟨endsAuthority_of_web hends kind, hopen, hclose, fun _ => rfl⟩
    have hbracket (c : Char) (hc : endsAuthority .web c = false ∧ c ≠ ':') (inside : Bool) :
        ¬ (c = ':' ∧ (!inside) = true ∨ endsAuthority kind c = true) := by
      simp [endsAuthority_of_web hc.1 kind, hc.2]
    have hclose : hostLength kind true (']' :: portText port) = 1 := by
      rw [hostLength, if_neg (hbracket ']' (by decide) true), if_neg (by decide), if_pos rfl, hport]
    rw [Host.render, List.cons_append, List.cons_append, hostLength,
      if_neg (hbracket '[' (by decide) false), if_pos rfl, List.append_assoc,
      hostLength_append hinside, List.singleton_append, hclose]
    simp only [List.length_cons, List.length_append, List.length_nil]
    omega

end Characters

section Written

variable {scheme : Text} {authority : Authority}

theorem cutAtLastAt_append {back : Text} (h : '@' ∉ back) (front : Text) :
    cutAtLastAt (front ++ '@' :: back) = some (front, back) := by
  have hkind : ∀ c ∈ back.reverse, (c != '@') = true := fun c hc =>
    Text.bne_of_mem h (List.mem_reverse.1 hc)
  have hstops : Text.Stops (· != '@') ('@' :: front.reverse) := Text.stops_cons rfl _
  have hreverse : (front ++ '@' :: back).reverse = back.reverse ++ '@' :: front.reverse := by simp
  rw [cutAtLastAt, hreverse, Text.dropWhile_append_of_all hkind hstops,
    Text.takeWhile_append_of_all hkind hstops]
  simp

theorem cutAtLastAt_of_not_mem {text : Text} (h : '@' ∉ text) : cutAtLastAt text = none := by
  have hkind : ∀ c ∈ text.reverse, (c != '@') = true := fun c hc =>
    Text.bne_of_mem h (List.mem_reverse.1 hc)
  rw [cutAtLastAt, List.dropWhile_eq_nil_iff.2 hkind]

theorem spares_inCredentialSet : Spares inCredentialSet := Text.forall_mem (by decide)

/-- The credentials of an authority as text. -/
def userText (authority : Authority) : Text :=
  authority.username ++ if authority.password.isEmpty then [] else ':' :: authority.password

/-- The host and the port of an authority as text. -/
def placeText (host : Host) (port : Option Nat) : Text := host.render ++ portText port

theorem render_authority {host : Host} (hhost : authority.host = some host) :
    authority.render =
      if authority.hasCredentials then userText authority ++ '@' :: placeText host authority.port
      else placeText host authority.port := by
  rw [Authority.render, hhost]
  cases authority.hasCredentials with
  | true => simp [userText, placeText, portText]
  | false => simp [placeText, portText]

/-- What an authority is, with its host or without one, that a text is read as for a
scheme. -/
structure IsSpelled (scheme : Text) (authority : Authority) : Prop where
  username : ∃ text, authority.username = encode inCredentialSet text
  password : ∃ text, authority.password = encode inCredentialSet text
  host : ∀ host ∈ authority.host, IsHostText host.render
  hostless : authority.host = none → (SchemeKind.of scheme).isSpecial = false ∧
    authority.hasCredentials = false ∧ authority.port = none
  port : ∀ port ∈ authority.port, port ≤ 65535 ∧ defaultPort? scheme ≠ some port

theorem IsAuthority.isSpelled (h : IsAuthority scheme authority) : IsSpelled scheme authority := by
  obtain ⟨host, hhost, hread⟩ := h.host
  refine ⟨h.username, h.password, ?_, ?_, h.port⟩
  · intro found hfound
    rw [hhost] at hfound
    cases hfound
    exact isHostText_render hread
  · intro hnone
    rw [hhost] at hnone
    cases hnone

theorem credentials_userText (h : IsSpelled scheme authority) :
    credentials (userText authority) = (authority.username, authority.password) := by
  obtain ⟨user, huser⟩ := h.username
  obtain ⟨secret, hsecret⟩ := h.password
  have hcolon : ':' ∉ authority.username := fun hmem => by
    rw [huser] at hmem
    exact (of_mem_encode_credentials hmem).2 (by decide)
  have hkind : ∀ c ∈ authority.username, (c != ':') = true := fun c hc => Text.bne_of_mem hcolon hc
  have husername : encode inCredentialSet authority.username = authority.username := by
    rw [huser, encode_encode spares_inCredentialSet]
  have hpassword : encode inCredentialSet authority.password = authority.password := by
    rw [hsecret, encode_encode spares_inCredentialSet]
  cases hempty : authority.password with
  | nil =>
    rw [credentials, userText, hempty, List.isEmpty_nil, if_pos rfl, List.append_nil,
      List.takeWhile_eq_self_iff.2 hkind, List.dropWhile_eq_nil_iff.2 hkind, husername]
    rfl
  | cons c rest =>
    have hstops : Text.Stops (· != ':') (':' :: c :: rest) := Text.stops_cons rfl _
    rw [hempty] at hpassword
    rw [credentials, userText, hempty, List.isEmpty_cons, if_neg (by decide),
      Text.takeWhile_append_of_all hkind hstops, Text.dropWhile_append_of_all hkind hstops,
      husername, List.drop_succ_cons, List.drop_zero, hpassword]

theorem portOf_portText {port : Option Nat}
    (h : ∀ n ∈ port, n ≤ 65535 ∧ defaultPort? scheme ≠ some n) {rest : Text} (hrest : Ended rest) :
    portOf scheme (portText port ++ rest) = .ok (port, rest) := by
  cases port with
  | none =>
    refine portOf_of_ne_colon fun hcolon => ?_
    have hends := hrest ':' hcolon
    cases hends
  | some n =>
    obtain ⟨hbound, hdefault⟩ := h n rfl
    have hdigits : ∀ c ∈ Text.ofNat n, c.isDigit := fun c hc =>
      Nat.isDigit_of_mem_toDigits (by decide) (by decide) hc
    have hplain : ∀ c ∈ Text.ofNat n, endsAuthority .web c = false := fun c hc =>
      (@of_mem_portText (some n) c (List.mem_cons_of_mem _ hc)).1.2.1
    change parsePort scheme (Text.ofNat n ++ rest) = _
    rw [parsePort_append hplain hrest, parsePort, List.takeWhile_eq_self_iff.2 hdigits,
      List.dropWhile_eq_nil_iff.2 hdigits, Text.decimal?_ofNat]
    simp only [if_neg (Nat.not_lt.2 hbound), if_neg hdefault]
    rfl

theorem not_mem_placeText {host : Host} (h : IsHostText host.render) (port : Option Nat) :
    '@' ∉ placeText host port := by
  intro hmem
  rcases List.mem_append.1 hmem with hhost | hport
  · exact (h.of_mem hhost).2.2 rfl
  · exact (of_mem_portText hport).2 rfl

theorem render_hostless (h : IsSpelled scheme authority) (hnone : authority.host = none) :
    authority.render = [] := by
  obtain ⟨-, hcredentials, hport⟩ := h.hostless hnone
  rw [Authority.render, hcredentials, hnone, hport]
  rfl

theorem IsSpelled.render_ne_nil (h : IsSpelled scheme authority) {host : Host}
    (hhost : authority.host = some host) : authority.render ≠ [] := by
  obtain ⟨c, rest, hrender⟩ := List.exists_cons_of_ne_nil (h.host host hhost).1
  rw [render_authority hhost, placeText, hrender]
  split <;> simp

/-- An authority is written in characters of an authority. -/
theorem isZoneChar_of_mem_render (h : IsSpelled scheme authority) {c : Char}
    (hc : c ∈ authority.render) : IsZoneChar c := by
  cases hhost : authority.host with
  | none =>
    rw [render_hostless h hhost] at hc
    cases hc
  | some host =>
    obtain ⟨user, huser⟩ := h.username
    obtain ⟨secret, hsecret⟩ := h.password
    have hplace (hc : c ∈ placeText host authority.port) : IsZoneChar c :=
      (List.mem_append.1 hc).elim (fun hmem => ((h.host host hhost).of_mem hmem).2.1)
        fun hmem => (of_mem_portText hmem).1
    rw [render_authority hhost] at hc
    split at hc
    · rw [userText, huser, hsecret, List.mem_append, List.mem_append, List.mem_cons] at hc
      rcases hc with (husername | hpassword) | rfl | hmem
      · exact (of_mem_encode_credentials husername).1
      · split at hpassword
        · cases hpassword
        · rcases List.mem_cons.1 hpassword with rfl | hmem
          · exact ⟨rfl, rfl, rfl⟩
          · exact (of_mem_encode_credentials hmem).1
      · exact ⟨rfl, rfl, rfl⟩
      · exact hplace hmem
    · exact hplace hc

/-- The start of an address is one when its authority is written anew. -/
theorem isLead_render (hscheme : scheme = "http".toList ∨ scheme = "https".toList)
    (h : IsAuthority scheme authority) : IsLead scheme authority.render where
  web := by rcases hscheme with rfl | rfl <;> decide
  nonempty := by
    obtain ⟨host, hhost, -⟩ := h.host
    exact h.isSpelled.render_ne_nil hhost
  visible c hc := (isZoneChar_of_mem_render h.isSpelled hc).1
  within c hc := (isZoneChar_of_mem_render h.isSpelled hc).2.1

/-- The host that a text is read as for a kind of scheme. -/
def readHost (kind : SchemeKind) (text : Text) : Except UrlError Host :=
  match kind with
  | .other => parsePlainHost text
  | _ => parseHost text

theorem hostOf_of_ne_nil {kind : SchemeKind} {text : Text} (h : text ≠ []) (rest : Text) :
    hostOf kind text rest = (readHost kind text).map some := by
  rw [hostOf.eq_def, List.isEmpty_eq_false_iff.2 h]
  cases kind <;> rfl

/-- A host that is read for any scheme is written as one. -/
theorem isHostText_of_readHost {kind : SchemeKind} {text : Text} (hne : text ≠ []) {host : Host}
    (h : readHost kind text = .ok host) : IsHostText host.render := by
  rw [readHost.eq_def] at h
  split at h
  · by_cases hbracket : text.head? = some '['
    · obtain ⟨rest, rfl⟩ := List.head?_eq_some_iff.1 hbracket
      exact isHostText_render (@isHost_of_parseHost ('[' :: rest) host h)
    · rw [parsePlainHost_of_ne_bracket hbracket] at h
      split at h
      · cases h
      · rename_i hbreaks
        cases h
        refine ⟨encode_ne_nil hne, .inl fun c hc => ?_⟩
        rcases mem_encode hc with ⟨hmem, hleft⟩ | hescape
        · rw [isEscaped, Bool.or_eq_false_iff, decide_eq_false_iff_not, Nat.not_le] at hleft
          have hplain : isHostBreaker c = false :=
            Bool.eq_false_iff.2 fun hbreak => hbreaks (List.any_eq_true.2 ⟨c, hmem, hbreak⟩)
          have hall : ∀ n < 128, isControl (Char.ofNat n) = false →
              isHostBreaker (Char.ofNat n) = false → IsHostChar (Char.ofNat n) := by decide
          exact Text.forall_ascii
            (p := fun c => isControl c = false → isHostBreaker c = false → IsHostChar c) hall
            hleft.1 hleft.2 hplain
        · have hall : ∀ d ∈ '%' :: Text.hexDigits, IsHostChar d := Text.forall_mem (by decide)
          exact hall c hescape
  · exact isHostText_render (isHost_of_parseHost h)

/-- Nobody is named only where nobody has to be and no port follows. -/
theorem of_hostOf_eq_none {kind : SchemeKind} {text rest : Text}
    (h : hostOf kind text rest = .ok none) : kind.isSpecial = false ∧ rest.head? ≠ some ':' := by
  by_cases hempty : text = []
  · rw [hostOf.eq_def, hempty, List.isEmpty_nil, if_pos rfl] at h
    split at h
    · cases h
    · rename_i hneeded
      rwa [not_or, Bool.not_eq_true] at hneeded
  · rw [hostOf_of_ne_nil hempty] at h
    obtain ⟨host, -, hnone⟩ := exists_of_map_eq_ok h
    cases hnone

/-- The host of an authority is read from a text of its own. -/
theorem exists_readHost {input rest : Text} (h : parseAuthority scheme input = .ok (authority, rest)) :
    ∀ host ∈ authority.host, ∃ text, text ≠ [] ∧ readHost (.of scheme) text = .ok host := by
  obtain ⟨user, name, behind, -, -, hhost, -, -⟩ := exists_of_parseAuthority h
  intro host hfound
  rw [Option.mem_def.1 hfound] at hhost
  by_cases hname : name = []
  · rw [hostOf.eq_def, hname, List.isEmpty_nil, if_pos rfl] at hhost
    split at hhost <;> cases hhost
  · rw [hostOf_of_ne_nil hname] at hhost
    obtain ⟨other, hread, hsame⟩ := exists_of_map_eq_ok hhost
    exact ⟨name, hname, Option.some_inj.1 hsame ▸ hread⟩

/-- What an authority is read as can be spelled. -/
theorem isSpelled_of_parseAuthority {input rest : Text}
    (h : parseAuthority scheme input = .ok (authority, rest)) : IsSpelled scheme authority := by
  obtain ⟨user, name, behind, husername, hpassword, hhost, hport, hcredentials⟩ :=
    exists_of_parseAuthority h
  refine ⟨⟨_, husername⟩, ⟨_, hpassword⟩, fun host hfound => ?_, fun hnone => ?_,
    port_of_portOf hport⟩
  · obtain ⟨text, hne, hread⟩ := exists_readHost h host hfound
    exact isHostText_of_readHost hne hread
  · rw [hnone] at hhost
    obtain ⟨hspecial, hcolon⟩ := of_hostOf_eq_none hhost
    rw [portOf_of_ne_colon hcolon] at hport
    exact ⟨hspecial, hcredentials hnone, (Prod.mk.inj (Except.ok.inj hport)).1.symm⟩

/-- A written authority is read as it was, up to its host, which is read anew. -/
theorem parseAuthority_spelled (h : IsSpelled scheme authority) {host : Host}
    (hhost : authority.host = some host) {rest : Text}
    (hrest : Text.Stops (fun c => !endsAuthority (.of scheme) c) rest) :
    parseAuthority scheme (authority.render ++ rest) =
      (readHost (.of scheme) host.render).map fun found =>
        ({ authority with host := some found }, rest) := by
  have htext := h.host host hhost
  have hkept : ∀ c ∈ authority.render, (!endsAuthority (.of scheme) c) = true := fun c hc => by
    rw [endsAuthority_of_web (isZoneChar_of_mem_render h hc).2.1]
    rfl
  have hcut : (cutAtLastAt authority.render).getD ([], authority.render) =
      (if authority.hasCredentials then userText authority else [],
        placeText host authority.port) := by
    rw [render_authority hhost]
    split
    · rw [cutAtLastAt_append (not_mem_placeText htext _)]
      rfl
    · rw [cutAtLastAt_of_not_mem (not_mem_placeText htext _)]
      rfl
  have huser : credentials (if authority.hasCredentials then userText authority else []) =
      (authority.username, authority.password) := by
    split
    · exact credentials_userText h
    · rename_i hnone
      simp only [Authority.hasCredentials, Bool.or_eq_true, Bool.not_eq_true', not_or,
        Bool.not_eq_false, List.isEmpty_iff] at hnone
      rw [hnone.1, hnone.2]
      rfl
  have hlength := htext.hostLength_eq (.of scheme) authority.port
  have hplace : (placeText host authority.port).isEmpty = false := by
    rw [placeText, List.isEmpty_eq_false_iff]
    exact fun hnil => htext.1 (List.append_eq_nil_iff.1 hnil).1
  rw [parseAuthority_eq scheme _ (Text.takeWhile_append_of_all hkept hrest)
    (Text.dropWhile_append_of_all hkept hrest) hcut
    (by rw [placeText, hlength, List.take_left]) (by rw [placeText, hlength, List.drop_left]),
    if_neg (by simp [hplace]), hostOf_of_ne_nil htext.1, portOf_portText h.port (ended_of_stops hrest), huser]
  cases readHost (.of scheme) host.render with
  | error error => rfl
  | ok found => rfl

/-- Where no host is needed, nothing is an authority. -/
theorem parseAuthority_hostless (h : IsSpelled scheme authority) (hnone : authority.host = none)
    {rest : Text} (hrest : Text.Stops (fun c => !endsAuthority (.of scheme) c) rest) :
    parseAuthority scheme (authority.render ++ rest) = .ok (authority, rest) := by
  obtain ⟨hspecial, hcredentials, hport⟩ := h.hostless hnone
  have hcolon : rest.head? ≠ some ':' := fun hc => by
    have hends := ended_of_stops hrest ':' hc
    cases hends
  have hhost : hostOf (.of scheme) [] rest = .ok none := by
    rw [hostOf.eq_def, List.isEmpty_nil, if_pos rfl, if_neg (by simp [hspecial, hcolon])]
  have hempty : authority = {} := by
    simp only [Authority.hasCredentials, Bool.or_eq_false_iff, Bool.not_eq_false',
      List.isEmpty_iff] at hcredentials
    cases authority
    simp_all
  have hread := parseAuthority_eq scheme rest (Text.takeWhile_of_stops hrest)
    (Text.dropWhile_of_stops hrest)
    (show (cutAtLastAt []).getD ([], []) = ([], []) from rfl) rfl rfl
  rw [if_neg (by simp [cutAtLastAt])] at hread
  rw [render_hostless h hnone, List.nil_append, hread]
  simp only [hostLength, List.take_nil, List.drop_nil, List.nil_append, hhost,
    portOf_of_ne_colon hcolon, hempty]
  rfl

/-- An authority that was read is read as it is written. -/
theorem parseAuthority_render (hweb : SchemeKind.of scheme = .web)
    (h : IsAuthority scheme authority)
    (hname : ∀ name, authority.host = some (.domain name) → Domain.toAscii? name = some name) :
    parseAuthority scheme authority.render = .ok (authority, []) := by
  obtain ⟨host, hhost, hread⟩ := h.host
  have hanew : readHost (.of scheme) host.render = .ok host := by
    rw [hweb]
    exact parseHost_render hread fun name hdomain => hname name (hdomain ▸ hhost)
  have hspelled := parseAuthority_spelled h.isSpelled hhost (Text.stops_nil _)
  rw [List.append_nil, hanew] at hspelled
  rw [hspelled]
  cases authority
  cases hhost
  rfl

/-- An authority that is a name alone. -/
def named (name : Text) : Authority := { host := some (.domain name) }

variable {name : Text}

theorem render_named (name : Text) : (named name).render = name := List.append_nil name

theorem isAuthority_named (hplain : Domain.IsPlain name) (hne : name ≠ [])
    (hnumber : endsInNumber name = false) (scheme : Text) : IsAuthority scheme (named name) :=
  ⟨⟨[], rfl⟩, ⟨[], rfl⟩, ⟨_, rfl, ⟨name, Domain.toAscii?_of_plain hplain⟩, hne, hnumber⟩,
    fun port hport => by cases hport⟩

/-- A plain name is read as itself. -/
theorem parseAuthority_named (hweb : SchemeKind.of scheme = .web) (hplain : Domain.IsPlain name)
    (hne : name ≠ []) (hnumber : endsInNumber name = false) :
    parseAuthority scheme name = .ok (named name, []) := by
  have hread := parseAuthority_render hweb (isAuthority_named hplain hne hnumber scheme)
    fun other hother => ?_
  · rwa [render_named] at hread
  · cases hother
    exact Domain.toAscii?_of_plain hplain

end Written

end RuleGateway.Url
