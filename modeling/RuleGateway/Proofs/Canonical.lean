import RuleGateway.Canonical
import RuleGateway.Proofs.Http.Location
import RuleGateway.Proofs.Text.Lower

/-!
# Reaching the canonical origin

A request for another spelling of the origin is sent to the canonical one, and a
client that follows should be there. Of the name it drops one `www.` in small
letters. So one redirect is enough, and no other spelling gets through, exactly if
what is left of the name is a name and has no `www.` in front, in letters of
either case (`isSettled_iff`).
-/

namespace RuleGateway

/-- A scheme as it is written. -/
structure IsScheme (scheme : Text) : Prop where
  nonempty : scheme ≠ []
  chars : ∀ c ∈ scheme, Url.isSchemeChar c

theorem RequestTarget.fst_cut (separator : Char) (text : Text) :
    (cut separator text).1 = text.takeWhile (· != separator) := by
  rw [cut]
  split
  · rename_i hnone
    have hwhole := List.takeWhile_append_dropWhile (p := (· != separator)) (l := text)
    rw [hnone, List.append_nil] at hwhole
    exact hwhole.symm
  · rfl

namespace Request

/-- A host in brackets goes up to where they close. -/
theorem withoutPort_bracket (rest : Text) :
    withoutPort ('[' :: rest) =
      ('[' :: rest).takeWhile (· != ']') ++ (('[' :: rest).dropWhile (· != ']')).take 1 := by
  have hwhole := List.takeWhile_append_dropWhile (p := (· != ']')) (l := '[' :: rest)
  rw [withoutPort]
  split
  · rename_i hnone
    rw [hnone, List.append_nil] at hwhole
    rw [hnone, hwhole, List.take_nil, List.append_nil]
  · cases hafter : ('[' :: rest).dropWhile (· != ']') with
    | nil => contradiction
    | cons c after =>
      have hclose := List.head?_dropWhile_not (· != ']') ('[' :: rest)
      rw [hafter] at hclose
      obtain rfl : c = ']' := by simpa using hclose
      rfl

theorem withoutPort_of_ne {host : Text} (h : host.head? ≠ some '[') :
    withoutPort host = host.takeWhile (· != ':') := by
  rw [withoutPort.eq_def]
  split
  · exact absurd rfl h
  · exact RequestTarget.fst_cut ':' host

end Request

namespace RequestTarget

/-- The characters that end a host in an address or stand before it. -/
def delimiters : Text := "/?#@"

/-- The host of an authority without credentials is what is left without the port. -/
theorem host?_of_authority {target : RequestTarget} {authority : Text}
    (h : target.authority = some authority) (hat : '@' ∉ authority) :
    target.host? = some (Request.withoutPort authority) := by
  have hkind : ∀ c ∈ authority.reverse, (c != '@') = true := fun c hc =>
    Text.bne_of_mem hat (List.mem_reverse.1 hc)
  rw [host?, h, Option.map_some, List.takeWhile_eq_self_iff.2 hkind, List.reverse_reverse]
  dsimp only
  split
  · rw [Request.withoutPort_bracket]
  · rename_i hbracket
    rw [fst_cut, Request.withoutPort_of_ne]
    rintro hhead
    obtain ⟨rest, rfl⟩ := List.head?_eq_some_iff.1 hhead
    exact hbracket rest rfl

variable {scheme place tail : Text}

theorem schemeOf?_append (h : IsScheme scheme) (rest : Text) :
    ∃ name, Text.lower name = Text.lower scheme ∧
      schemeOf? (scheme ++ "://".toList ++ rest) = some (name, rest) := by
  have hname : (scheme ++ "://".toList ++ rest).takeWhile (· != ':') = scheme := by
    rw [List.append_assoc]
    refine Text.takeWhile_append_of_all (fun c hc => ?_) (Text.stops_cons rfl _)
    rw [bne_iff_ne]
    rintro rfl
    cases h.chars ':' hc
  rw [schemeOf?, hname, Text.after?_append]
  refine ⟨_, ?_, rfl⟩
  split
  · exact Text.lower_lower scheme
  · rfl

/-- The scheme and the authority of an address are those it is written with. -/
theorem ofText_address (hscheme : IsScheme scheme) (hplace : ∀ c ∈ place, c ∉ delimiters)
    (htail : Url.IsTail tail) :
    ∃ name rest, Text.lower name = Text.lower scheme ∧
      ofText (scheme ++ "://".toList ++ place ++ tail) =
        { scheme := some name, authority := some place, rest } := by
  have hmark {c : Char} (hc : c ∈ scheme) : c ≠ '#' ∧ c ≠ '/' := by
    have hchar := hscheme.chars c hc
    constructor <;> rintro rfl <;> cases hchar
  -- A number sign would end the address, but there is none before the path.
  have hcut : (cut '#' (scheme ++ "://".toList ++ place ++ tail)).1 =
      scheme ++ "://".toList ++ (place ++ tail.takeWhile (· != '#')) := by
    rw [fst_cut, List.takeWhile_append_of_pos, List.append_assoc]
    intro c hc
    rw [bne_iff_ne]
    rcases List.mem_append.1 hc with hlead | hmem
    · rcases List.mem_append.1 hlead with hmem | hmem
      · exact (hmark hmem).1
      · have hall : ∀ d ∈ "://".toList, d ≠ '#' := Text.forall_mem (by decide)
        exact hall c hmem
    · rintro rfl
      exact hplace '#' hmem (by decide)
  have hfull :
      ¬ ((scheme ++ "://".toList ++ (place ++ tail.takeWhile (· != '#'))).head? = some '/' ∨
      scheme ++ "://".toList ++ (place ++ tail.takeWhile (· != '#')) = ['*']) := by
    obtain ⟨c, letters, rfl⟩ := List.exists_cons_of_ne_nil hscheme.nonempty
    rintro (hslash | hstar)
    · exact (hmark List.mem_cons_self).2 (Option.some_inj.1 hslash)
    · simp at hstar
  have hzone : ∀ c ∈ place, (!(c == '/' || c == '?')) = true := by
    intro c hc
    rw [Bool.not_eq_true', Bool.or_eq_false_iff, beq_eq_false_iff_ne, beq_eq_false_iff_ne]
    constructor <;> rintro rfl <;> exact hplace _ hc (by decide)
  have hended : Text.Stops (fun c => !(c == '/' || c == '?')) (tail.takeWhile (· != '#')) := by
    rcases htail with rfl | hslash
    · exact Text.stops_nil _
    · cases tail with
      | nil => cases hslash
      | cons c rest =>
        obtain rfl := Option.some_inj.1 hslash
        exact Text.stops_cons rfl _
  obtain ⟨name, hname, hread⟩ := schemeOf?_append hscheme (place ++ tail.takeWhile (· != '#'))
  have hplace := Text.takeWhile_append_of_all hzone hended
  have hrest := Text.dropWhile_append_of_all hzone hended
  refine ⟨name, tail.takeWhile (· != '#'), hname, ?_⟩
  rw [ofText, hcut, if_neg hfull, hread]
  dsimp only
  rw [hplace, hrest]

/-- Only an authority by itself has no path, and it has no query either. -/
theorem query_of_path_eq_nil {target : RequestTarget} (h : target.path = []) :
    target.query = none := by
  rw [path] at h
  split at h
  · cases h
  · rename_i hroot
    have hauthority : target.isAuthority := by
      rw [h] at hroot
      simpa using hroot
    have hrest : target.rest = [] := by
      simp only [isAuthority, Bool.and_eq_true, List.isEmpty_iff] at hauthority
      exact hauthority.2
    rw [query, hrest]
    rfl

end RequestTarget

namespace Request

/-- The request for an address: scheme and host are taken from it. -/
def forAddress (address : Text) : Request := { target := .ofText address }

/-- A request that a client may make for an address: in its scheme and for its host,
up to the case of letters. -/
structure Follows (request : Request) (address : Text) : Prop where
  scheme : request.scheme = (forAddress address).scheme
  hostname : request.hostname?.map Text.lower = (forAddress address).hostname?.map Text.lower

/-- A name without its port is in brackets or has no colon. -/
theorem not_mem_of_withoutPort {host name : Text} (h : withoutPort host = name)
    (hbracket : name.head? ≠ some '[') : ':' ∉ name := by
  subst h
  have hopen : host.head? ≠ some '[' := by
    intro hhead
    obtain ⟨rest, rfl⟩ := List.head?_eq_some_iff.1 hhead
    rw [withoutPort_bracket] at hbracket
    exact hbracket rfl
  rw [withoutPort_of_ne hopen]
  intro hmem
  have hkind := List.all_eq_true.1 List.all_takeWhile ':' hmem
  exact absurd hkind (by decide)

theorem withoutPort_withoutPort (host : Text) :
    withoutPort (withoutPort host) = withoutPort host := by
  by_cases hopen : host.head? = some '['
  · obtain ⟨rest, rfl⟩ := List.head?_eq_some_iff.1 hopen
    have hkind : ∀ c ∈ ('[' :: rest).takeWhile (· != ']'), (c != ']') = true :=
      List.all_eq_true.1 List.all_takeWhile
    have hend : Text.Stops (· != ']') ((('[' :: rest).dropWhile (· != ']')).take 1) := by
      intro c hc
      have hclose := List.head?_dropWhile_not (· != ']') ('[' :: rest)
      rw [List.head?_take, if_neg (by decide)] at hc
      rw [hc] at hclose
      exact hclose
    rw [withoutPort_bracket]
    change withoutPort ('[' :: (rest.takeWhile (· != ']') ++ _)) = _
    rw [withoutPort_bracket]
    change (('[' :: rest).takeWhile (· != ']') ++ _).takeWhile (· != ']') ++
      ((('[' :: rest).takeWhile (· != ']') ++ _).dropWhile (· != ']')).take 1 = _
    rw [Text.takeWhile_append_of_all hkind hend, Text.dropWhile_append_of_all hkind hend,
      List.take_take, Nat.min_self]
  · have hname := withoutPort_of_ne hopen
    have hstill : (withoutPort host).head? ≠ some '[' := by
      intro hhead
      rw [hname] at hhead
      cases host with
      | nil => cases hhead
      | cons c rest =>
        rw [List.takeWhile_cons] at hhead
        split at hhead
        · exact hopen hhead
        · cases hhead
    have hcolon := not_mem_of_withoutPort rfl hstill
    rw [withoutPort_of_ne hstill,
      List.takeWhile_eq_self_iff.2 fun c hc => Text.bne_of_mem hcolon hc]

/-- The host of an authority is read for the name, where no field has one. -/
theorem hostname?_of_authority {target : RequestTarget} {place : Text}
    (h : target.authority = some place) (hat : '@' ∉ place) :
    Request.hostname? { target } = Text.nonempty? (withoutPort place) := by
  have hnone : Headers.text? [] "host" = none := rfl
  rw [hostname?, hnone, Option.none_or, RequestTarget.host?_of_authority h hat, Option.map_some,
    Option.bind_some, withoutPort_withoutPort]

theorem withoutPort_lower (host : Text) :
    withoutPort (Text.lower host) = Text.lower (withoutPort host) := by
  have hclose := Text.bne_comp_toLower (d := ']') rfl rfl
  have hcolon := Text.bne_comp_toLower (d := ':') rfl rfl
  by_cases hopen : host.head? = some '['
  · obtain ⟨rest, rfl⟩ := List.head?_eq_some_iff.1 hopen
    change withoutPort ('[' :: Text.lower rest) = _
    rw [withoutPort_bracket, withoutPort_bracket]
    change (Text.lower ('[' :: rest)).takeWhile (· != ']') ++
      ((Text.lower ('[' :: rest)).dropWhile (· != ']')).take 1 = _
    rw [Text.lower, List.takeWhile_map, List.dropWhile_map, hclose, ← List.map_take,
      ← List.map_append]
    rfl
  · have hstill : (Text.lower host).head? ≠ some '[' := by
      rw [Text.lower, List.head?_map]
      intro hhead
      obtain ⟨c, hc, hlower⟩ := Option.map_eq_some_iff.1 hhead
      exact hopen (hc.trans (congrArg some (Text.eq_of_toLower rfl hlower)))
    rw [withoutPort_of_ne hopen, withoutPort_of_ne hstill, Text.lower, List.takeWhile_map, hcolon]
    rfl

/-- What is read for the name of a host. -/
theorem exists_of_hostname? {request : Request} {name : Text} (h : request.hostname? = some name) :
    name ≠ [] ∧ ∃ host, withoutPort host = name := by
  obtain ⟨found, hfound, hnonempty⟩ := Option.bind_eq_some_iff.1 h
  rw [Text.nonempty?, Option.ite_none_left_eq_some] at hnonempty
  obtain ⟨host, -, hhost⟩ := Option.map_eq_some_iff.1 hfound
  obtain rfl := Option.some_inj.1 hnonempty.2
  exact ⟨by simpa using hnonempty.1, host, hhost⟩

end Request

namespace CanonicalPolicy

variable {policy : CanonicalPolicy} {request next : Request} {name address : Text}

section Names

/-- Whether a text is a name that does not start with `www.`, as names are compared. -/
def IsBare (name : Text) : Prop := name ≠ [] ∧ ¬ Text.startsWith (Text.lower name) www

theorem startsWith_lower (h : Text.startsWith name www) :
    Text.startsWith (Text.lower name) www := by
  obtain ⟨rest, hrest⟩ := Option.isSome_iff_exists.1 h
  obtain rfl := Text.after?_eq_some_iff.1 hrest
  rw [Text.startsWith, Text.lower, List.map_append]
  have hwww : www.map Char.toLower = www := by decide
  rw [hwww, Text.after?_append]
  rfl

theorem startsWith_append (rest : Text) : Text.startsWith (www ++ rest) www := by
  rw [Text.startsWith, Text.after?_append]
  rfl

theorem isBare_bracket (rest : Text) : IsBare ('[' :: rest) := by
  refine ⟨by simp, ?_⟩
  have hlower : Text.lower ('[' :: rest) = '[' :: Text.lower rest := rfl
  rw [hlower]
  intro h
  cases h

/-- A name stays as it is or is left without its `www.`. -/
theorem hostname_cases (policy : CanonicalPolicy) (name : Text) :
    (policy.stripWww → ¬ Text.startsWith name www) ∧ policy.hostname name = name ∨
      policy.stripWww ∧ ∃ rest, name = www ++ rest ∧ policy.hostname name = rest := by
  rw [hostname]
  cases hstrip : policy.stripWww with
  | false => exact .inl ⟨(fun h => by cases h), rfl⟩
  | true =>
    cases hafter : Text.after? www name with
    | none => exact .inl ⟨fun _ => by simp [Text.startsWith, hafter], rfl⟩
    | some rest => exact .inr ⟨rfl, rest, Text.after?_eq_some_iff.1 hafter, rfl⟩

/-- The port is no part of what makes a name bare. -/
theorem isBare_withoutPort_iff (h : name.head? ≠ some '[' → ':' ∉ name) :
    IsBare (Request.withoutPort name) ↔ IsBare name := by
  by_cases hopen : name.head? = some '['
  · obtain ⟨rest, rfl⟩ := List.head?_eq_some_iff.1 hopen
    refine iff_of_true ?_ (isBare_bracket rest)
    rw [Request.withoutPort_bracket]
    exact isBare_bracket _
  · rw [Request.withoutPort_of_ne hopen,
      List.takeWhile_eq_self_iff.2 fun c hc => Text.bne_of_mem (h hopen) hc]

/-- The canonical spelling of a name without a port has none either. -/
theorem not_mem_hostname (policy : CanonicalPolicy) (h : name.head? ≠ some '[' → ':' ∉ name) :
    (policy.hostname name).head? ≠ some '[' → ':' ∉ policy.hostname name := by
  rcases policy.hostname_cases name with ⟨-, hkept⟩ | ⟨-, rest, rfl, hrest⟩
  · rwa [hkept]
  · rw [hrest]
    intro _ hmem
    refine h (fun hhead => ?_) (List.mem_append_right www hmem)
    cases hhead

theorem hostname_subset (policy : CanonicalPolicy) (name : Text) : policy.hostname name ⊆ name := by
  rcases policy.hostname_cases name with ⟨-, hkept⟩ | ⟨-, rest, rfl, hrest⟩
  · rw [hkept]
    exact List.Subset.refl name
  · rw [hrest]
    exact List.subset_append_right www rest

end Names

section Redirect

variable {response : Response}

/-- A request for a host by its name, with what its `Location` is made of written as it
is in addresses. -/
structure Names (policy : CanonicalPolicy) (request : Request) (name : Text) : Prop where
  hostname : request.hostname? = some name
  plain : ∀ c ∈ name, c ∉ RequestTarget.delimiters
  scheme : policy.enforceHttps ∨ IsScheme request.scheme
  tail : Url.IsTail request.target.path
  writable : HeaderValue.IsWritable (policy.location request name)

theorem redirect?_eq_none_iff :
    policy.redirect? request = none ↔
      ∀ name ∈ request.hostname?, policy.shouldRedirect request.scheme name = false := by
  rw [redirect?.eq_def]
  split
  · rename_i hname
    simp [hname]
  · rename_i name hname
    rw [hname]
    split
    · rename_i hredirect
      simp [hredirect]
    · rename_i hkept
      simpa using hkept

theorem shouldRedirect_eq_false_iff {scheme : Text} :
    policy.shouldRedirect scheme name = false ↔
      (policy.enforceHttps → scheme = "https".toList) ∧
        (policy.stripWww → ¬ Text.startsWith name www) := by
  simp [shouldRedirect]

/-- A redirect leads to the canonical spelling of the address. -/
theorem valuesOf_redirect? (h : policy.Names request name)
    (hredirect : policy.redirect? request = some response) :
    response.headers.valuesOf "location" = [Utf8.encode (policy.location request name)] := by
  rw [redirect?, h.hostname] at hredirect
  dsimp only at hredirect
  rw [HeaderValue.ofText?_of_isWritable h.writable, Option.ite_none_right_eq_some] at hredirect
  obtain rfl := Option.some_inj.1 hredirect.2
  rfl

/-- The address of a redirect has the host in its canonical spelling behind its scheme. -/
theorem exists_location_eq (h : policy.Names request name) :
    ∃ scheme tail, IsScheme scheme ∧ Url.IsTail tail ∧
      (policy.enforceHttps → scheme = "https".toList) ∧
      policy.location request name =
        scheme ++ "://".toList ++ policy.hostname name ++ tail := by
  refine ⟨if policy.enforceHttps then "https".toList else request.scheme,
    request.target.path ++ ((request.target.query.bind Text.nonempty?).map ('?' :: ·)).getD [],
    ?_, ?_, ?_, ?_⟩
  · split
    · exact ⟨by decide, Text.forall_mem (by decide)⟩
    · rename_i hrelaxed
      exact h.scheme.resolve_left hrelaxed
  · rcases h.tail with hnil | hslash
    · rw [hnil, RequestTarget.query_of_path_eq_nil hnil]
      exact .inl rfl
    · exact .inr (by simp [hslash])
  · intro henforce
    rw [if_pos henforce]
  · rw [location, ← List.append_assoc]

/-- The request for the address of a redirect is for the host in its canonical spelling. -/
theorem forAddress_location (h : policy.Names request name) :
    (policy.enforceHttps →
      (Request.forAddress (policy.location request name)).scheme = "https".toList) ∧
    (Request.forAddress (policy.location request name)).hostname? =
      Text.nonempty? (Request.withoutPort (policy.hostname name)) := by
  obtain ⟨scheme, tail, hscheme, htail, henforced, haddress⟩ := exists_location_eq h
  have hplace : ∀ c ∈ policy.hostname name, c ∉ RequestTarget.delimiters :=
    fun c hc => h.plain c (hostname_subset policy name hc)
  obtain ⟨written, rest, hlower, htarget⟩ := RequestTarget.ofText_address hscheme hplace htail
  rw [haddress, Request.forAddress, htarget]
  constructor
  · intro henforce
    have hwritten : Text.lower written = "https".toList := by
      rw [hlower, henforced henforce]
      decide
    exact hwritten
  · exact Request.hostname?_of_authority rfl fun hat => hplace '@' hat (by decide)

/-- A request that one redirect brings to the canonical origin, or none if it is there:
the client that follows is not redirected again, and what is not redirected needs no
redirect. -/
structure IsSettled (policy : CanonicalPolicy) (request : Request) : Prop where
  one_hop : ∀ response address next, policy.redirect? request = some response →
    response.headers.valuesOf "location" = [Utf8.encode address] → next.Follows address →
      policy.redirect? next = none ∧ next.hostname?.isSome
  caught : policy.redirect? request = none → ∀ name, request.hostname? = some name →
    (policy.enforceHttps → request.scheme = "https".toList) ∧
      (policy.stripWww → ¬ Text.startsWith (Text.lower name) www)

/-- A client that follows a redirect to a bare name stays there. -/
theorem redirect?_of_follows (h : policy.Names request name)
    (hbare : policy.stripWww → IsBare (policy.hostname name))
    (hnext : next.Follows (policy.location request name)) :
    policy.redirect? next = none ∧ next.hostname?.isSome := by
  obtain ⟨hscheme, hsought⟩ := forAddress_location h
  obtain ⟨hne, host, hhost⟩ := Request.exists_of_hostname? h.hostname
  have hplace : Request.withoutPort (policy.hostname name) ≠ [] ∧ (policy.stripWww →
      ¬ Text.startsWith (Text.lower (Request.withoutPort (policy.hostname name))) www) := by
    rcases policy.hostname_cases name with ⟨-, hkept⟩ | ⟨hstrip, -⟩
    · rw [hkept] at hbare ⊢
      rw [← hhost, Request.withoutPort_withoutPort, hhost]
      exact ⟨hne, fun hstrip => (hbare hstrip).2⟩
    · have hcolon := policy.not_mem_hostname (Request.not_mem_of_withoutPort hhost)
      obtain ⟨hleft, hwww⟩ := (isBare_withoutPort_iff hcolon).2 (hbare hstrip)
      exact ⟨hleft, fun _ => hwww⟩
  have hname := hnext.hostname
  rw [hsought, Text.nonempty?, if_neg (by simpa using hplace.1), Option.map_some] at hname
  obtain ⟨found, hfound, hlower⟩ := Option.map_eq_some_iff.1 hname
  refine ⟨redirect?_eq_none_iff.2 ?_, Option.isSome_of_eq_some hfound⟩
  intro other hother
  obtain rfl := Option.some_inj.1 (hfound.symm.trans hother)
  refine shouldRedirect_eq_false_iff.2 ⟨fun henforce => ?_, fun hstrip hstart => ?_⟩
  · exact hnext.scheme.trans (hscheme henforce)
  · exact hplace.2 hstrip (hlower ▸ startsWith_lower hstart)

/-- A client may make letters small before it follows, so a redirect that settles leads
to a bare name. -/
theorem isBare_of_settled (h : policy.Names request name) (hstrip : policy.stripWww)
    (hsettled : ∀ next : Request, next.Follows (policy.location request name) →
      policy.redirect? next = none ∧ next.hostname?.isSome) :
    IsBare (policy.hostname name) := by
  obtain ⟨-, hsought⟩ := forAddress_location h
  obtain ⟨-, host, hhost⟩ := Request.exists_of_hostname? h.hostname
  have hcolon := policy.not_mem_hostname (Request.not_mem_of_withoutPort hhost)
  have hat : '@' ∉ Text.lower (policy.hostname name) := by
    intro hmem
    obtain ⟨c, hc, hlower⟩ := List.mem_map.1 hmem
    obtain rfl := Text.eq_of_toLower rfl hlower
    exact h.plain '@' (hostname_subset policy name hc) (by decide)
  obtain ⟨target, htarget⟩ : ∃ target : RequestTarget, target =
      { RequestTarget.ofText (policy.location request name) with
        authority := some (Text.lower (policy.hostname name)) } := ⟨_, rfl⟩
  have hname : Request.hostname? { target } =
      Text.nonempty? (Text.lower (Request.withoutPort (policy.hostname name))) := by
    rw [Request.hostname?_of_authority (by rw [htarget]) hat, Request.withoutPort_lower]
  have hfollows : Request.Follows { target } (policy.location request name) := by
    constructor
    case scheme => rw [htarget]; rfl
    case hostname =>
      rw [hname, hsought]
      cases Request.withoutPort (policy.hostname name) with
      | nil => rfl
      | cons c rest => exact congrArg some (Text.lower_lower (c :: rest))
  obtain ⟨hstays, hsome⟩ := hsettled _ hfollows
  rw [hname, Text.nonempty?] at hsome
  rw [← isBare_withoutPort_iff hcolon]
  split at hsome
  · cases hsome
  · rename_i hne
    have hkept := redirect?_eq_none_iff.1 hstays _
      (hname.trans (by rw [Text.nonempty?, if_neg hne]))
    refine ⟨fun hnil => hne (by rw [hnil]; rfl), (shouldRedirect_eq_false_iff.1 hkept).2 hstrip⟩

/-- One redirect is enough, and every other spelling is redirected, exactly if the name
has nothing in front but a `www.` in small letters, and something behind it. -/
theorem isSettled_iff (h : policy.Names request name) :
    policy.IsSettled request ↔ (policy.stripWww → IsBare (policy.hostname name)) := by
  constructor
  · intro hsettled hstrip
    cases hredirect : policy.redirect? request with
    | none =>
      have hcaught := (hsettled.caught hredirect name h.hostname).2 hstrip
      have hkept := redirect?_eq_none_iff.1 hredirect name h.hostname
      have hwww := (shouldRedirect_eq_false_iff.1 hkept).2 hstrip
      rcases policy.hostname_cases name with ⟨-, hname⟩ | ⟨-, rest, rfl, -⟩
      · rw [hname]
        exact ⟨(Request.exists_of_hostname? h.hostname).1, hcaught⟩
      · exact absurd (startsWith_append rest) hwww
    | some response =>
      refine isBare_of_settled h hstrip fun next hnext => ?_
      exact hsettled.one_hop response _ next hredirect (valuesOf_redirect? h hredirect) hnext
  · intro hbare
    constructor
    case one_hop =>
      intro response address next hredirect hlocation hnext
      rw [valuesOf_redirect? h hredirect, List.singleton_inj] at hlocation
      obtain rfl := Utf8.encode_injective hlocation
      exact redirect?_of_follows h hbare hnext
    case caught =>
      intro hredirect other hother
      obtain rfl := Option.some_inj.1 (h.hostname.symm.trans hother)
      have hkept := redirect?_eq_none_iff.1 hredirect name h.hostname
      obtain ⟨hscheme, hwww⟩ := shouldRedirect_eq_false_iff.1 hkept
      refine ⟨hscheme, fun hstrip => ?_⟩
      rcases policy.hostname_cases name with ⟨-, hname⟩ | ⟨-, rest, rfl, -⟩
      · rw [hname] at hbare
        exact (hbare hstrip).2
      · exact absurd (startsWith_append rest) (hwww hstrip)

/-- A request for the page at the root of a host, which reached the edge encrypted. -/
def encryptedRequest (host : Text) : Request where
  target := .ofText "/"
  headers := [("host", Utf8.encode host), ("x-forwarded-proto", Utf8.encode "https")]

theorem wwwRequest_settled :
    Names {} (encryptedRequest "www.example.com") "www.example.com" ∧
      IsBare (hostname {} "www.example.com") ∧
      IsSettled {} (encryptedRequest "www.example.com") := by
  have hnames : Names {} (encryptedRequest "www.example.com") "www.example.com" :=
    ⟨by decide, Text.forall_mem (by decide), .inl rfl, .inr (by decide),
      Text.forall_mem (by decide)⟩
  have hbare : IsBare (hostname {} "www.example.com") := ⟨by decide, by decide⟩
  exact ⟨hnames, hbare, (isSettled_iff hnames).2 fun _ => hbare⟩

/-- A `www.` in capitals gets through, of two only one is dropped, and a name that is
nothing else leaves no host. -/
theorem capitalRequest_not_settled :
    redirect? {} (encryptedRequest "WWW.example.com") = none ∧
      ¬ IsSettled {} (encryptedRequest "WWW.example.com") ∧
      ¬ IsSettled {} (encryptedRequest "www.www.example.com") ∧
      ¬ IsSettled {} (encryptedRequest "www.") := by
  have hfollows (address : Text) : (Request.forAddress address).Follows address := ⟨rfl, rfl⟩
  refine ⟨by decide, fun hsettled => ?_, fun hsettled => ?_, fun hsettled => ?_⟩
  · have hcaught := hsettled.caught (by decide) "WWW.example.com" (by decide)
    exact hcaught.2 rfl (by decide)
  · have hstays := hsettled.one_hop _ "https://www.example.com/" _ rfl (by decide) (hfollows _)
    exact absurd hstays.1 (by decide)
  · have hsome := hsettled.one_hop _ "https:///" _ rfl (by decide) (hfollows _)
    exact absurd hsome.2 (by decide)

end Redirect

end CanonicalPolicy

end RuleGateway
