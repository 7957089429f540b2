import RuleGateway.Proofs.Net.Ip
import RuleGateway.Proofs.Url.Domain
import RuleGateway.Url.Parser

/-!
# Hosts as text

A host that was read is read again as it is written (`parseHost_render`). A name is
read again if it is left alone when it is brought into ASCII once more, which a
name without Punycode is.
-/

namespace RuleGateway.Url

section Reading

/-- What a host is that a text is read as. -/
def IsHost : Host → Prop
  | .domain name => (∃ text, Domain.toAscii? text = some name) ∧ name ≠ [] ∧
      endsInNumber name = false
  | .v4 address => address < Ip.pieceBound * Ip.pieceBound
  | .v6 pieces => Ip.IsAddress pieces

theorem foldl_bytes_lt {front : List Nat} (h : ∀ n ∈ front, n ≤ 255) (sum : Nat) :
    front.foldl (fun sum n => sum * 256 + n) sum < (sum + 1) * Nat.pow 256 front.length := by
  rw [Nat.pow_eq]
  induction front generalizing sum with
  | nil => simp
  | cons n front ih =>
    have hn := h n List.mem_cons_self
    calc (n :: front).foldl (fun sum n => sum * 256 + n) sum
        < (sum * 256 + n + 1) * 256 ^ front.length :=
          ih (fun m hm => h m (List.mem_cons_of_mem n hm)) _
      _ ≤ (sum + 1) * 256 * 256 ^ front.length := Nat.mul_le_mul_right _ (by omega)
      _ = (sum + 1) * 256 ^ (n :: front).length := by
          rw [List.length_cons, Nat.pow_succ, Nat.mul_assoc, Nat.mul_comm 256]

theorem lt_of_ipv4OfParts? {numbers : List Nat} {address : Nat}
    (h : ipv4OfParts? numbers = some address) : address < Ip.pieceBound * Ip.pieceBound := by
  obtain ⟨last, -, h⟩ := Option.bind_eq_some_iff.1 h
  dsimp only at h
  obtain ⟨hbounds, haddress⟩ := Option.ite_none_left_eq_some.1 h
  rw [not_or, not_or, Nat.not_lt, Nat.not_le] at hbounds
  obtain ⟨hlength, hfront, hlast⟩ := hbounds
  have hbytes : ∀ n ∈ numbers.dropLast, n ≤ 255 := by
    simpa using hfront
  -- The front numbers are a byte each, the last one has the bytes that are left.
  have hfold := foldl_bytes_lt hbytes 0
  have hplaces : numbers.dropLast.length ≤ 4 := by
    rw [List.length_dropLast]
    omega
  rw [Nat.zero_add, Nat.one_mul, Nat.pow_eq] at hfold
  generalize numbers.dropLast.foldl (fun sum n => sum * 256 + n) 0 = sum at hfold haddress
  rw [← Option.some_inj.1 haddress]
  rw [Nat.pow_eq] at hlast ⊢
  generalize numbers.dropLast.length = length at hplaces hfold hlast ⊢
  calc sum * 256 ^ (4 - length) + last
      < (sum + 1) * 256 ^ (4 - length) := by
        rw [Nat.succ_mul]
        omega
    _ ≤ 256 ^ length * 256 ^ (4 - length) := Nat.mul_le_mul_right _ hfold
    _ = 256 ^ 4 := by rw [← Nat.pow_add, Nat.add_sub_cancel' hplaces]
    _ = Ip.pieceBound * Ip.pieceBound := rfl

theorem isHost_of_parseHost {text : Text} {host : Host} (h : parseHost text = .ok host) :
    IsHost host := by
  rw [parseHost.eq_def] at h
  split at h
  · split at h
    · split at h
      · rename_i hpieces
        cases h
        exact Ip.isAddress_of_v6? hpieces
      · cases h
    · cases h
  · split at h
    · cases h
    · cases h
    · rename_i name hne hname
      split at h
      · split at h
        · rename_i address haddress
          cases h
          obtain ⟨numbers, -, hparts⟩ := Option.bind_eq_some_iff.1 haddress
          exact lt_of_ipv4OfParts? hparts
        · cases h
      · rename_i hnumber
        cases h
        exact ⟨⟨_, hname⟩, hne, by simpa using hnumber⟩

variable {text : Text}

/-- The host that a name in ASCII stands for, if a text has one. -/
def hostOfName (name : Option Text) : Except UrlError Host :=
  match name with
  | none => .error .invalidName
  | some [] => .error .emptyHost
  | some name =>
    if endsInNumber name then
      match ((nameParts name).mapM ipv4Number?).bind ipv4OfParts? with
      | some address => .ok (.v4 address)
      | none => .error .invalidIpv4
    else .ok (.domain name)

/-- Outside brackets a host is read from its name in ASCII only. -/
theorem parseHost_of_ne_bracket (h : text.head? ≠ some '[') :
    parseHost text = hostOfName (Domain.toAscii? text) := by
  rw [parseHost.eq_def]
  split
  · exact absurd rfl h
  · rfl

theorem parsePlainHost_of_ne_bracket (h : text.head? ≠ some '[') :
    parsePlainHost text =
      if text.any isHostBreaker then .error .invalidHostCharacter
      else .ok (.domain (Percent.encode Percent.isControl text)) := by
  rw [parsePlainHost.eq_def]
  split
  · exact absurd rfl h
  · rfl

end Reading

section Writing

theorem mem_ofNat {n : Nat} {c : Char} (h : c ∈ Text.ofNat n) : c ∈ "0123456789".toList := by
  obtain ⟨d, hd, rfl⟩ := Text.mem_toDigits (by decide) h
  have hall : ∀ d < 10, d.digitChar ∈ "0123456789".toList := by decide
  exact hall d hd

/-- The four bytes of an address. -/
def bytesV4 (address : Nat) : List Nat :=
  [address / 16777216, address / 65536 % 256, address / 256 % 256, address % 256]

theorem split_renderV4 (address : Nat) :
    Text.split '.' (Ip.renderV4 address) = (bytesV4 address).map Text.ofNat := by
  refine Text.split_join (by simp) fun part hpart => ?_
  obtain ⟨n, -, rfl⟩ := List.mem_map.1 hpart
  exact fun hdot => absurd (mem_ofNat hdot) (by decide)

theorem nameParts_renderV4 (address : Nat) :
    nameParts (Ip.renderV4 address) = (bytesV4 address).map Text.ofNat := by
  have hlast : ((bytesV4 address).map Text.ofNat).getLast? ≠ some [] := by
    simp [bytesV4, Text.ofNat]
  rw [nameParts, split_renderV4, if_neg hlast]

theorem isPlain_renderV4 (address : Nat) : Domain.IsPlain (Ip.renderV4 address) := by
  have hchars : ∀ c ∈ Ip.renderV4 address, c ∈ '.' :: "0123456789".toList := by
    intro c hc
    rcases Text.mem_join hc with rfl | ⟨part, hpart, hmem⟩
    · exact List.mem_cons_self
    · obtain ⟨n, -, rfl⟩ := List.mem_map.1 hpart
      exact List.mem_cons_of_mem _ (mem_ofNat hmem)
  have hall : ∀ c ∈ '.' :: "0123456789".toList,
      c.toNat < Domain.asciiEnd ∧ c.toLower = c ∧ Domain.isForbidden c = false :=
    Text.forall_mem (by decide)
  constructor
  case ascii => exact fun c hc => (hall c (hchars c hc)).1
  case small => exact fun c hc => (hall c (hchars c hc)).2.1
  case allowed => exact fun c hc => (hall c (hchars c hc)).2.2
  case unmarked =>
    intro part hpart
    rw [split_renderV4] at hpart
    obtain ⟨n, -, rfl⟩ := List.mem_map.1 hpart
    cases hmark : Text.after? Domain.punycodeMark (Text.ofNat n) with
    | none => rfl
    | some rest =>
      have hx : 'x' ∈ Text.ofNat n := by
        rw [Text.after?_eq_some_iff.1 hmark]
        exact List.mem_cons_self
      exact absurd (mem_ofNat hx) (by decide)

theorem ipv4OfParts?_bytes {a b c d : Nat} (h : ∀ n ∈ [a, b, c, d], n < 256) :
    ipv4OfParts? [a, b, c, d] = some (((a * 256 + b) * 256 + c) * 256 + d) := by
  have ha := h a (by simp)
  have hb := h b (by simp)
  have hc := h c (by simp)
  have hd := h d (by simp)
  have hfront : [a, b, c].any (255 < ·) = false := by
    simp only [List.any_cons, List.any_nil, Bool.or_false, Bool.or_eq_false_iff,
      decide_eq_false_iff_not]
    omega
  have hfits : ¬ (4 < [a, b, c, d].length ∨ [a, b, c].any (255 < ·) = true ∨
      Nat.pow 256 (4 - [a, b, c].length) ≤ d) := by
    rw [hfront]
    simpa using hd
  have hsum : [a, b, c].foldl (fun sum n => sum * 256 + n) 0 * 256 + d =
      ((a * 256 + b) * 256 + c) * 256 + d := by simp
  rw [← hsum]
  exact if_neg hfits

theorem endsInNumber_renderV4 (address : Nat) : endsInNumber (Ip.renderV4 address) = true := by
  have hlast : ((bytesV4 address).map Text.ofNat).getLast? =
      some (Text.ofNat (address % 256)) := rfl
  have hdigits : (Text.ofNat (address % 256)).all Char.isDigit = true :=
    List.all_eq_true.2 fun c hc => Nat.isDigit_of_mem_toDigits (by decide) (by decide) hc
  have hne : (Text.ofNat (address % 256)).isEmpty = false :=
    List.isEmpty_eq_false_iff.2 Nat.toDigits_ne_nil
  rw [endsInNumber, nameParts_renderV4, hlast]
  simp only [hdigits, hne, Bool.not_false, Bool.and_self, Bool.true_or]

section Name

variable {name : Text}

/-- A name that is left alone is read as one. -/
theorem parseHost_of_name (h : '[' ∉ name) (hname : Domain.toAscii? name = some name)
    (hne : name ≠ []) (hnumber : endsInNumber name = false) :
    parseHost name = .ok (.domain name) := by
  rw [parseHost_of_ne_bracket fun hopen => h (List.mem_of_head? hopen), hname]
  obtain ⟨c, rest, rfl⟩ := List.exists_cons_of_ne_nil hne
  simp only [hostOfName, hnumber, Bool.false_eq_true, if_false]

theorem parseHost_of_number (h : '[' ∉ name) (hname : Domain.toAscii? name = some name)
    (hne : name ≠ []) (hnumber : endsInNumber name = true) {address : Nat}
    (haddress : ((nameParts name).mapM ipv4Number?).bind ipv4OfParts? = some address) :
    parseHost name = .ok (.v4 address) := by
  rw [parseHost_of_ne_bracket fun hopen => h (List.mem_of_head? hopen), hname]
  obtain ⟨c, rest, rfl⟩ := List.exists_cons_of_ne_nil hne
  simp only [hostOfName, hnumber, haddress, if_true]

end Name

/-- An address of four bytes is read as it is written. -/
theorem parseHost_renderV4 {address : Nat} (h : address < Ip.pieceBound * Ip.pieceBound) :
    parseHost (Ip.renderV4 address) = .ok (.v4 address) := by
  have hbytes : ∀ n ∈ bytesV4 address, n < 256 := by
    have hbound : Ip.pieceBound * Ip.pieceBound = 4294967296 := rfl
    simp only [bytesV4, List.mem_cons, List.not_mem_nil, or_false]
    rintro n (rfl | rfl | rfl | rfl) <;> omega
  have hnumbers : ((bytesV4 address).map Text.ofNat).mapM ipv4Number? = some (bytesV4 address) := by
    have hall : ∀ n < 256, ipv4Number? (Text.ofNat n) = some n := by decide +kernel
    have hread : (bytesV4 address).mapM (ipv4Number? ∘ Text.ofNat) =
        some ((bytesV4 address).map id) :=
      Text.mapM_eq_some fun n hn => hall n (hbytes n hn)
    rwa [List.map_id, ← List.mapM_map] at hread
  have haddress : ipv4OfParts? (bytesV4 address) = some address := by
    refine (ipv4OfParts?_bytes hbytes).trans (congrArg some ?_)
    omega
  have hplain := isPlain_renderV4 address
  have hbracket : '[' ∉ Ip.renderV4 address := fun hmem => by
    have := hplain.allowed '[' hmem
    contradiction
  have hne : Ip.renderV4 address ≠ [] := fun hnil => by
    have hsplit := split_renderV4 address
    rw [hnil] at hsplit
    exact absurd (congrArg List.length hsplit) (by simp [bytesV4, Text.split])
  refine parseHost_of_number hbracket (Domain.toAscii?_of_plain hplain) hne
    (endsInNumber_renderV4 address) ?_
  rw [nameParts_renderV4, hnumbers, Option.bind_some, haddress]

/-- A host that was read is read as it is written. -/
theorem parseHost_render {host : Host} (h : IsHost host)
    (hname : ∀ name, host = .domain name → Domain.toAscii? name = some name) :
    parseHost host.render = .ok host := by
  cases host with
  | domain name =>
    obtain ⟨⟨text, htext⟩, hne, hnumber⟩ := h
    have hbracket : '[' ∉ name := fun hmem =>
      absurd (Domain.allowed_of_toAscii? htext '[' hmem).2 (by decide)
    exact parseHost_of_name hbracket (hname name rfl) hne hnumber
  | v4 address => exact parseHost_renderV4 h
  | v6 pieces =>
    have hend : Text.endsWith (Ip.renderV6 pieces ++ [']']) ']' = true := by
      simp [Text.endsWith]
    rw [Host.render, List.cons_append, parseHost, if_pos hend, List.dropLast_concat,
      Ip.v6?_renderV6 h]

/-- A host is in characters that a name may have, or in brackets. -/
theorem allowed_render {host : Host} (h : IsHost host) :
    (∀ c ∈ host.render, Domain.IsAllowed c) ∨ ∃ pieces, host = .v6 pieces := by
  cases host with
  | domain name =>
    obtain ⟨⟨text, htext⟩, -⟩ := h
    exact .inl (Domain.allowed_of_toAscii? htext)
  | v4 address =>
    have hplain := isPlain_renderV4 address
    exact .inl fun c hc => ⟨hplain.ascii c hc, hplain.allowed c hc⟩
  | v6 pieces => exact .inr ⟨pieces, rfl⟩

theorem render_ne_nil {host : Host} (h : IsHost host) : host.render ≠ [] := by
  cases host with
  | domain name => exact h.2.1
  | v4 address =>
    intro hnil
    have hends := endsInNumber_renderV4 address
    rw [Host.render] at hnil
    rw [hnil] at hends
    cases hends
  | v6 pieces => exact List.cons_ne_nil _ _

end Writing

end RuleGateway.Url
