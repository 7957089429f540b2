import Mathlib.Data.List.TakeWhile
import RuleGateway.Proofs.Text.Ascii
import RuleGateway.Proofs.Text.Runs
import RuleGateway.Url.Parser

/-!
# Whom an address names

The scheme and the authority of a web address are read from the text up to the
first slash, question mark or number sign behind them. What follows has no part
in it: `parse_lead` reads an address as its authority, read by itself, and then
what follows.
-/

namespace RuleGateway.Url

section Clean

/-- Whether a character is dropped around an address. -/
def isOuter (c : Char) : Bool := c.toNat ≤ 0x20

/-- Whether a character is kept inside an address. -/
def isKept (c : Char) : Bool := !(['\t', '\n', '\r'].contains c)

/-- The text without what ends an address and without tabs and breaks. -/
def cleanEnd (text : Text) : Text :=
  ((text.reverse.dropWhile isOuter).reverse).filter isKept

theorem isKept_of_not_isOuter {c : Char} (h : isOuter c = false) : isKept c := by
  rw [isKept, Bool.not_eq_true']
  refine Bool.eq_false_iff.2 fun hmem => ?_
  simp only [List.contains_eq_mem, decide_eq_true_eq, List.mem_cons, List.not_mem_nil,
    or_false] at hmem
  rcases hmem with rfl | rfl | rfl <;> cases h

theorem clean_eq (text : Text) : clean text = cleanEnd (text.dropWhile isOuter) := rfl

theorem clean_of_stops {text : Text} (h : Text.Stops isOuter text) :
    clean text = cleanEnd text := by
  rw [clean_eq, Text.dropWhile_of_stops h]

/-- Visible characters are all kept. -/
theorem cleanEnd_append {front : Text} (h : ∀ c ∈ front, isOuter c = false) (back : Text) :
    cleanEnd (front ++ back) = front ++ cleanEnd back := by
  have hstops : Text.Stops isOuter front.reverse := fun c hc =>
    h c (List.mem_reverse.1 (List.mem_of_head? hc))
  have hkept : front.filter isKept = front :=
    List.filter_eq_self.2 fun c hc => isKept_of_not_isOuter (h c hc)
  rw [cleanEnd, List.reverse_append, Text.dropWhile_append_of_stops hstops, List.reverse_append,
    List.reverse_reverse, List.filter_append, hkept, cleanEnd]

/-- What stands before an end that is not all cleaned away is not at the end itself. -/
theorem cleanEnd_append_of_ne_nil {back : Text} (h : cleanEnd back ≠ []) (front : Text) :
    cleanEnd (front ++ back) = front.filter isKept ++ cleanEnd back := by
  have hne : (back.reverse.dropWhile isOuter).isEmpty = false := by
    rw [Bool.eq_false_iff, Ne, List.isEmpty_iff]
    intro hnil
    rw [cleanEnd, hnil] at h
    exact h rfl
  rw [cleanEnd, List.reverse_append, List.dropWhile_append, hne, if_neg Bool.false_ne_true,
    List.reverse_append, List.reverse_reverse, List.filter_append, cleanEnd]

theorem cleanEnd_eq_self {text : Text} (hkept : ∀ c ∈ text, isKept c)
    (hlast : ∀ c, text.getLast? = some c → isOuter c = false) : cleanEnd text = text := by
  have hstops : Text.Stops isOuter text.reverse := fun c hc => by
    rw [List.head?_reverse] at hc
    exact hlast c hc
  rw [cleanEnd, Text.dropWhile_of_stops hstops, List.reverse_reverse, List.filter_eq_self.2 hkept]

theorem cleanEnd_of_visible {text : Text} (h : ∀ c ∈ text, isOuter c = false) :
    cleanEnd text = text :=
  cleanEnd_eq_self (fun c hc => isKept_of_not_isOuter (h c hc)) fun c hc =>
    h c (List.mem_of_getLast? hc)

/-- What follows an address starts as it did once the address is clean. -/
theorem stops_cleanEnd {kind : Char → Bool} {text : Text} (h : Text.Stops kind text)
    (hvisible : Text.Stops isOuter text) : Text.Stops kind (cleanEnd text) := by
  cases text with
  | nil => exact Text.stops_nil kind
  | cons c rest =>
    have hc : ∀ d ∈ [c], isOuter d = false := by simpa using hvisible c rfl
    have hclean := cleanEnd_append hc rest
    rw [List.singleton_append, List.singleton_append] at hclean
    rw [hclean]
    exact Text.stops_cons (h c rfl) _

end Clean

section Authority

/-- The characters that end an authority, from which reading goes on. -/
abbrev Ended (text : Text) : Prop := Text.Stops (fun c => !endsAuthority .web c) text

theorem endsAuthority_web (c : Char) :
    endsAuthority .web c = (isAnySlash c || c == '?' || c == '#') := by
  simp [endsAuthority, isSlash, isAnySlash, SchemeKind.isSpecial]

theorem endsAuthority_iff {c : Char} :
    endsAuthority .web c ↔ c = '/' ∨ c = '\\' ∨ c = '?' ∨ c = '#' := by
  simp [endsAuthority_web, isAnySlash, or_assoc]

/-- No run of a kind without those characters goes on behind an authority. -/
theorem Ended.stops {rest : Text} (h : Ended rest) {kind : Char → Bool}
    (hkind : ∀ c ∈ ['/', '\\', '?', '#'], kind c = false) : Text.Stops kind rest := by
  intro c hc
  have hends : endsAuthority .web c := by simpa using h c hc
  exact hkind c (by simpa using endsAuthority_iff.1 hends)

variable {scheme zone rest : Text}

/-- A port is read up to the end of the authority. -/
theorem parsePort_append {digits : Text} (hdigits : ∀ c ∈ digits, endsAuthority .web c = false)
    (hrest : Ended rest) :
    parsePort scheme (digits ++ rest) =
      (parsePort scheme digits).map fun found => (found.1, rest) := by
  have hstop : Text.Stops Char.isDigit rest := hrest.stops (Text.forall_mem (by decide))
  rw [parsePort, parsePort, Text.takeWhile_append_of_stops hstop,
    Text.dropWhile_append_of_stops hstop]
  simp only [← endsAuthority_web]
  cases hleft : digits.dropWhile Char.isDigit with
  | nil =>
    have hstops : (rest.head?.map (endsAuthority .web)).getD true = true := by
      cases rest with
      | nil => rfl
      | cons c rest => simpa using hrest c rfl
    rw [List.nil_append, hstops]
    cases Text.decimal? (digits.takeWhile Char.isDigit) with
    | none => rfl
    | some port =>
      dsimp only
      split
      · rfl
      · rfl
  | cons c left =>
    have hc : endsAuthority .web c = false :=
      hdigits c ((List.dropWhile_suffix _).subset (hleft ▸ List.mem_cons_self))
    simp only [List.cons_append, List.head?_cons, Option.map_some, Option.getD_some, hc]
    cases Text.decimal? (digits.takeWhile Char.isDigit) with
    | none => rfl
    | some port =>
      dsimp only
      split
      · rfl
      · rfl

/-- Behind the host stands a port or nothing. -/
theorem drop_hostLength (inside : Bool) {host : Text}
    (h : ∀ c ∈ host, endsAuthority .web c = false) :
    host.drop (hostLength .web inside host) = [] ∨
      ∃ digits, host.drop (hostLength .web inside host) = ':' :: digits := by
  induction host generalizing inside with
  | nil => exact .inl rfl
  | cons c host ih =>
    rw [hostLength]
    split
    · rename_i hstop
      rcases hstop with ⟨rfl, -⟩ | hends
      · exact .inr ⟨host, rfl⟩
      · rw [h c List.mem_cons_self] at hends
        contradiction
    · rw [Nat.add_comm, List.drop_succ_cons]
      exact ih _ fun d hd => h d (List.mem_cons_of_mem c hd)

theorem hostOf_web (text rest : Text) :
    hostOf .web text rest =
      if text.isEmpty then .error .emptyHost else (parseHost text).map some := by
  rw [hostOf]
  · rfl
  · intro h
    cases h

theorem snd_cutAtLastAt_subset (zone : Text) :
    ((cutAtLastAt zone).getD ([], zone)).2 ⊆ zone := by
  rw [cutAtLastAt]
  split
  · exact List.Subset.refl zone
  · intro c hc
    rw [Option.getD_some, List.mem_reverse] at hc
    exact List.mem_reverse.1 ((List.takeWhile_prefix _).subset hc)

/-- What follows an authority has no part in it and is left as it is. -/
theorem parseAuthority_append (hweb : SchemeKind.of scheme = .web)
    (hzone : ∀ c ∈ zone, endsAuthority .web c = false) (hrest : Ended rest) :
    parseAuthority scheme (zone ++ rest) =
      (parseAuthority scheme zone).map fun found => (found.1, rest) := by
  have hkept : ∀ c ∈ zone, (!endsAuthority .web c) = true := fun c hc => by simp [hzone c hc]
  have htake := Text.takeWhile_append_of_all hkept hrest
  have halone := List.takeWhile_eq_self_iff.2 hkept
  obtain ⟨user, host, hcut, hhost⟩ : ∃ user host,
      (cutAtLastAt zone).getD ([], zone) = (user, host) ∧ host ⊆ zone :=
    ⟨_, _, rfl, snd_cutAtLastAt_subset zone⟩
  have hends : ∀ c ∈ host, endsAuthority .web c = false := fun c hc => hzone c (hhost hc)
  simp only [parseAuthority, hweb, htake, halone, hcut, List.drop_left, List.drop_length,
    List.append_nil, hostOf_web]
  by_cases hempty : host = []
  · -- There is no host to read, whatever follows.
    simp only [hempty, List.take_nil, List.isEmpty_nil, if_true, throw, throwThe,
      MonadExceptOf.throw, bind, Except.bind, Except.map, ite_self]
  have hnonempty : host.isEmpty = false := by simpa using hempty
  simp only [hnonempty, Bool.false_eq_true, false_and, and_false, if_false]
  generalize (if (host.take (hostLength .web false host)).isEmpty then
    Except.error UrlError.emptyHost
    else (parseHost (host.take (hostLength .web false host))).map some) = found
  cases found with
  | error error => rfl
  | ok found =>
    rcases drop_hostLength false hends with hdrop | ⟨digits, hdrop⟩
    · rw [hdrop, List.nil_append]
      simp only [bind, Except.bind, pure, Except.pure]
      split
      · have hcolon := hrest ':' rfl
        contradiction
      · split <;> rfl
    · have hdigits : ∀ c ∈ digits, endsAuthority .web c = false := fun c hc =>
        hends c ((List.drop_suffix _ _).subset (hdrop ▸ List.mem_cons_of_mem _ hc))
      rw [hdrop, List.cons_append]
      simp only [bind, Except.bind, pure, Except.pure, parsePort_append hdigits hrest]
      cases parsePort scheme digits with
      | error error => rfl
      | ok read =>
        simp only [Except.map]
        split <;> rfl

end Authority

section Lead

/-- The start of an address: a scheme, two slashes and what is named behind them. -/
def lead (scheme zone : Text) : Text := scheme ++ ':' :: '/' :: '/' :: zone

/-- The start of a web address is one that names something, in characters that
stand in an authority. -/
structure IsLead (scheme zone : Text) : Prop where
  web : Text.lower scheme = "http".toList ∨ Text.lower scheme = "https".toList
  nonempty : zone ≠ []
  visible : ∀ c ∈ zone, isOuter c = false
  within : ∀ c ∈ zone, endsAuthority .web c = false

variable {scheme zone rest : Text}

theorem IsLead.kind (h : IsLead scheme zone) : SchemeKind.of (Text.lower scheme) = .web := by
  rcases h.web with hscheme | hscheme <;> rw [hscheme] <;> decide

theorem isAlpha_of_toLower {c : Char} (h : c.toLower.isAlpha) : c.isAlpha := by
  by_cases hc : c.toNat < 0x80
  · have hall : ∀ n < 128, (Char.ofNat n).toLower.isAlpha → (Char.ofNat n).isAlpha := by decide
    exact Text.forall_ascii (p := fun c => c.toLower.isAlpha → c.isAlpha) hall hc h
  · rwa [Text.toLower_of_le (Nat.le_of_not_lt hc)] at h

theorem IsLead.isAlpha (h : IsLead scheme zone) {c : Char} (hc : c ∈ scheme) : c.isAlpha := by
  have hlower : ∀ d ∈ Text.lower scheme, d.isAlpha := by
    rcases h.web with hscheme | hscheme <;> rw [hscheme] <;> exact Text.forall_mem (by decide)
  exact isAlpha_of_toLower (hlower _ (List.mem_map_of_mem hc))

theorem IsLead.scheme_ne_nil (h : IsLead scheme zone) : scheme ≠ [] := by
  rintro rfl
  rcases h.web with hscheme | hscheme <;> cases hscheme

theorem visible_of_isAlpha {c : Char} (h : c.isAlpha) :
    isOuter c = false ∧ Percent.isControl c = false := by
  by_cases hc : c.toNat < 0x80
  · have hall : ∀ n < 128, (Char.ofNat n).isAlpha →
        isOuter (Char.ofNat n) = false ∧ Percent.isControl (Char.ofNat n) = false := by decide
    exact Text.forall_ascii
      (p := fun c => c.isAlpha → isOuter c = false ∧ Percent.isControl c = false) hall hc h
  · simp only [isOuter, Percent.isControl, Bool.or_eq_false_iff, decide_eq_false_iff_not,
      beq_eq_false_iff_ne]
    omega

theorem IsLead.not_isOuter (h : IsLead scheme zone) {c : Char} (hc : c ∈ lead scheme zone) :
    isOuter c = false := by
  simp only [lead, List.mem_append, List.mem_cons] at hc
  rcases hc with hscheme | rfl | rfl | rfl | hzone
  · exact (visible_of_isAlpha (h.isAlpha hscheme)).1
  · rfl
  · rfl
  · rfl
  · exact h.visible c hzone

theorem IsLead.scheme?_eq (h : IsLead scheme zone) (text : Text) :
    scheme? (scheme ++ ':' :: text) = some (Text.lower scheme, text) := by
  have hchars : ∀ c ∈ scheme, isSchemeChar c := fun c hc => by
    simp [isSchemeChar, Char.isAlphanum, h.isAlpha hc]
  have hcolon : Text.Stops isSchemeChar (':' :: text) := Text.stops_cons rfl text
  have hhead : ((scheme ++ ':' :: text).head?.map Char.isAlpha).getD false = true := by
    cases hscheme : scheme with
    | nil => exact absurd hscheme h.scheme_ne_nil
    | cons c rest => simpa using h.isAlpha (hscheme ▸ List.mem_cons_self)
  rw [scheme?, if_pos hhead, Text.dropWhile_append_of_all hchars hcolon,
    Text.takeWhile_append_of_all hchars hcolon]
  rfl

/-- An address is its authority, read by itself, with what follows it. -/
theorem parse_lead (h : IsLead scheme zone) (hrest : Ended rest) :
    parse (lead scheme zone ++ rest) =
      (parseAuthority (Text.lower scheme) zone).map fun found =>
        let path := parseAfterAuthority .web (cleanEnd rest)
        withTail
          { scheme := Text.lower scheme, authority := some found.1, path := .rooted path.1 }
          path.2 := by
  have hclean : clean (lead scheme zone ++ rest) =
      scheme ++ ':' :: '/' :: '/' :: (zone ++ cleanEnd rest) := by
    rw [clean_of_stops, cleanEnd_append (fun c hc => h.not_isOuter hc), lead, List.append_assoc]
    · rfl
    · intro c hc
      obtain ⟨d, letters, hscheme⟩ := List.exists_cons_of_ne_nil h.scheme_ne_nil
      refine h.not_isOuter ?_
      rw [lead, hscheme] at hc ⊢
      cases hc
      exact List.mem_cons_self
  have hended : Ended (cleanEnd rest) :=
    stops_cleanEnd hrest (hrest.stops (Text.forall_mem (by decide)))
  have hslashes : ('/' :: '/' :: (zone ++ cleanEnd rest)).dropWhile isAnySlash =
      zone ++ cleanEnd rest := by
    obtain ⟨c, host, hzone⟩ := List.exists_cons_of_ne_nil h.nonempty
    have hc : isAnySlash c = false := by
      have hends := h.within c (hzone ▸ List.mem_cons_self)
      simp only [endsAuthority_web, Bool.or_eq_false_iff] at hends
      exact hends.1.1
    rw [hzone, List.cons_append, List.dropWhile_cons_of_pos rfl, List.dropWhile_cons_of_pos rfl,
      List.dropWhile_cons_of_neg (by simp [hc])]
  rw [parse, parseAgainst, hclean, h.scheme?_eq]
  simp only [parseWithScheme, h.kind, Option.filter_none, hslashes, parseWithAuthority]
  rw [parseAuthority_append h.kind h.within hended]
  cases parseAuthority (Text.lower scheme) zone <;> rfl

/-- A text that is nothing or a path from the root. -/
def IsTail (text : Text) : Prop := text = [] ∨ text.head? = some '/'

theorem IsTail.ended {text : Text} (h : IsTail text) : Ended text := by
  rcases h with rfl | hslash
  · exact Text.stops_nil _
  · intro c hc
    rw [hslash] at hc
    cases hc
    rfl

theorem IsTail.append {front back : Text} (hfront : IsTail front) (hback : IsTail back) :
    IsTail (front ++ back) := by
  rcases hfront with rfl | hslash
  · exact hback
  · exact .inr (by simp [hslash])

theorem IsTail.dropFinalSlash {text : Text} (h : IsTail text) :
    IsTail (Text.dropFinalSlash text) := by
  rcases h with rfl | hslash
  · exact .inl rfl
  · obtain ⟨c, rest, rfl⟩ : ∃ c rest, text = c :: rest :=
      List.exists_cons_of_ne_nil (by rintro rfl; cases hslash)
    rw [Text.dropFinalSlash]
    split
    · cases rest with
      | nil => exact .inl rfl
      | cons d rest => exact .inr hslash
    · exact .inr hslash

/-- A slash at the end of an address is none of its start. -/
theorem dropFinalSlash_lead (h : IsLead scheme zone) (tail : Text) :
    Text.dropFinalSlash (lead scheme zone ++ tail) =
      lead scheme zone ++ Text.dropFinalSlash tail := by
  by_cases hend : tail.getLast? = some '/'
  · obtain ⟨front, rfl⟩ := List.getLast?_eq_some_iff.1 hend
    rw [Text.dropFinalSlash_concat, ← List.append_assoc, Text.dropFinalSlash_concat]
  · rw [Text.dropFinalSlash_of_ne hend]
    have hlead : lead scheme zone = (scheme ++ [':', '/', '/']) ++ zone := by simp [lead]
    have hzone := List.getLast?_eq_some_getLast h.nonempty
    refine Text.dropFinalSlash_of_ne fun hslash => ?_
    rw [hlead, List.getLast?_append, List.getLast?_append, hzone] at hslash
    cases hlast : tail.getLast? with
    | none =>
      rw [hlast, Option.none_or, Option.some_or, Option.some_inj] at hslash
      have hends := h.within _ (List.getLast_mem h.nonempty)
      rw [hslash] at hends
      cases hends
    | some c =>
      rw [hlast, Option.some_or] at hslash
      exact hend (hlast.trans hslash)

end Lead

end RuleGateway.Url
