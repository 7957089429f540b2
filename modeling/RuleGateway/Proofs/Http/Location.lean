import RuleGateway.Http.Location
import RuleGateway.Proofs.Text.Utf8
import RuleGateway.Proofs.Url.Printable

/-!
# Addresses as header values

A text can be the value of a field unless it has a control character other than the
tab. What the gateway sends a client to is put together from an address that was
read, the host, the mount and the location itself, and can be a value if these can
(`isWritable_forClient`). An address outside ASCII is escaped and can always be one.
-/

namespace RuleGateway

namespace HeaderValue

/-- Whether a byte may stand in a value. -/
def isAllowedByte (b : UInt8) : Bool := (0x20 ≤ b && b != 0x7F) || b == 0x09

/-- Whether a character may stand in a value. -/
def isAllowedChar (c : Char) : Bool := !Percent.isControl c || c == '\t'

/-- A text that can be a value. -/
def IsWritable (text : Text) : Prop := ∀ c ∈ text, isAllowedChar c

theorem isAllowedByte_of_lt {c : Char} (hc : c.toNat < 0x80) :
    isAllowedByte c.toNat.toUInt8 = isAllowedChar c := by
  have hall : ∀ n < 128,
      isAllowedByte (Char.ofNat n).toNat.toUInt8 = isAllowedChar (Char.ofNat n) := by decide
  exact Text.forall_ascii (p := fun c => isAllowedByte c.toNat.toUInt8 = isAllowedChar c) hall hc

theorem isAllowedChar_of_le {c : Char} (hc : 0x80 ≤ c.toNat) : isAllowedChar c := by
  have hcontrol : Percent.isControl c = false := by
    rw [Percent.isControl, Bool.or_eq_false_iff, decide_eq_false_iff_not, beq_eq_false_iff_ne]
    omega
  rw [isAllowedChar, hcontrol]
  rfl

theorem all_encodeChar (c : Char) : (Utf8.encodeChar c).all isAllowedByte = isAllowedChar c := by
  by_cases hascii : c.toNat < 0x80
  · rw [Utf8.encodeChar_of_lt hascii, ← isAllowedByte_of_lt hascii]
    exact Bool.and_true _
  · have hwide : 0x80 ≤ c.toNat := Nat.not_lt.1 hascii
    rw [isAllowedChar_of_le hwide, List.all_eq_true]
    intro b hb
    have hle := Utf8.le_of_mem_encodeChar hwide hb
    have hlow : (0x20 : UInt8) ≤ b := UInt8.le_iff_toNat_le.2 (Nat.le_trans (by decide) hle)
    have hdelete : b ≠ 0x7F := by
      rintro rfl
      exact absurd hle (by decide)
    simp [isAllowedByte, hlow, hdelete]

theorem isAllowed_encode_iff {text : Text} : isAllowed (Utf8.encode text) ↔ IsWritable text := by
  have hall : isAllowed (Utf8.encode text) = text.all isAllowedChar := by
    change (text.flatMap Utf8.encodeChar).all isAllowedByte = _
    rw [List.all_flatMap]
    congr 1
    funext c
    exact all_encodeChar c
  rw [hall, List.all_eq_true]
  exact Iff.rfl

theorem ofText?_of_isWritable {text : Text} (h : IsWritable text) :
    ofText? text = some (Utf8.encode text) := by
  rw [ofText?, if_pos (isAllowed_encode_iff.2 h)]

theorem isSome_ofText?_iff {text : Text} : (ofText? text).isSome ↔ IsWritable text := by
  rw [← isAllowed_encode_iff, ofText?]
  split
  · rename_i h
    exact iff_of_true rfl h
  · rename_i h
    exact iff_of_false Bool.false_ne_true h

theorem isWritable_of_isPrintable {text : Text} (h : Url.IsPrintable text) : IsWritable text := by
  intro c hc
  rw [isAllowedChar, h c hc]
  rfl

theorem ofText?_of_isPrintable {text : Text} (h : Url.IsPrintable text) :
    ofText? text = some (Utf8.encode text) :=
  ofText?_of_isWritable (isWritable_of_isPrintable h)

theorem isWritable_append {front back : Text} :
    IsWritable (front ++ back) ↔ IsWritable front ∧ IsWritable back :=
  List.forall_mem_append

/-- What is read from a value can be a value again. -/
theorem isWritable_decodeLossy {value : Bytes} (h : isAllowed value) :
    IsWritable (Utf8.decodeLossy value) := by
  intro c hc
  obtain ⟨mark, hmark, rfl⟩ := List.mem_map.1 hc
  cases mark with
  | none => exact isAllowedChar_of_le (by decide)
  | some c =>
    by_cases hascii : c.toNat < 0x80
    · have hbyte := Utf8.mem_of_mem_marks hascii Utf8.isReached_none hmark
      rw [Option.getD_some, ← isAllowedByte_of_lt hascii]
      exact List.all_eq_true.1 h _ hbyte
    · exact isAllowedChar_of_le (Nat.not_lt.1 hascii)

end HeaderValue

namespace Location

open HeaderValue

/-- An address that is not ASCII is escaped before it is written, and then nothing in
it is in the way. -/
theorem isSome_value?_iff {address : Text} :
    (value? address).isSome ↔ Text.isAscii address = false ∨ IsWritable address := by
  rw [value?, isSome_ofText?_iff, ascii]
  cases hascii : Text.isAscii address with
  | true => simp
  | false =>
    refine iff_of_true (isWritable_of_isPrintable ?_) (.inl rfl)
    rw [if_neg Bool.false_ne_true]
    split
    · exact Url.isPrintable_render ‹_›
    · exact Url.isPrintable_encode (fun c hc => hc) address

/-- A visit whose host and mount can stand in a value. -/
structure Visit.IsWritable (visit : Visit) : Prop where
  host : ∀ host ∈ visit.host, HeaderValue.IsWritable host
  mount : ∀ mount ∈ visit.mount, HeaderValue.IsWritable mount

section Client

variable {visit : Visit} {current target url : Url} {text location : Text}

theorem isWritable_mountedPath (hvisit : visit.IsWritable) (htext : HeaderValue.IsWritable text) :
    HeaderValue.IsWritable (mountedPath visit.mount text) := by
  rw [mountedPath.eq_def]
  split
  · rename_i mount hmount
    split
    · exact htext
    · exact isWritable_append.2 ⟨hvisit.mount mount hmount, htext⟩
  · exact htext

theorem isWritable_mounted (hvisit : visit.IsWritable) (htext : HeaderValue.IsWritable text) :
    HeaderValue.IsWritable (mounted visit.mount text) := by
  rw [mounted.eq_def]
  split
  · rename_i mount hmount
    split
    · exact isWritable_append.2 ⟨hvisit.mount mount hmount, htext⟩
    · exact htext
  · exact htext

theorem isWritable_localAddress (hvisit : visit.IsWritable) {host : Text}
    (hhost : HeaderValue.IsWritable host) (hurl : url.IsClean) :
    HeaderValue.IsWritable (localAddress host visit.mount url) := by
  have hlead : ∀ c ∈ "https://".toList, isAllowedChar c := Text.forall_mem (by decide)
  have hpath := isWritable_mountedPath hvisit (isWritable_of_isPrintable hurl.path)
  have hquery : Url.IsPrintable
      (((url.query.bind Text.nonempty?).map ('?' :: ·)).getD []) := by
    apply Url.isPrintable_behind (by decide)
    intro text htext
    obtain ⟨query, hfound, hnonempty⟩ := Option.bind_eq_some_iff.1 htext
    rw [Text.nonempty?, Option.ite_none_left_eq_some] at hnonempty
    rw [← Option.some_inj.1 hnonempty.2]
    exact hurl.query query hfound
  unfold localAddress
  exact isWritable_append.2 ⟨isWritable_append.2 ⟨isWritable_append.2 ⟨hlead, hhost⟩, hpath⟩,
    isWritable_of_isPrintable hquery⟩

/-- The address of a page is its local one where that is not the page that was asked for,
and otherwise its own. -/
theorem ofUrl_cases (visit : Visit) (target url : Url) :
    (∃ host, visit.host = some host ∧ host ≠ [] ∧ Url.sameOrigin url target ∧
      ofUrl visit target url = localAddress host visit.mount url ∧
      localAddress host visit.mount url ≠ visit.href) ∨
    ofUrl visit target url = url.render ∧
      (Url.sameOrigin url target →
        ∀ host ∈ visit.host, host ≠ [] → localAddress host visit.mount url = visit.href) := by
  cases hhost : visit.host.bind Text.nonempty? with
  | none =>
    refine .inr ⟨by rw [ofUrl, hhost], ?_⟩
    intro _ host hgiven hne
    have hkept : Text.nonempty? host = some host := if_neg (by simpa using hne)
    rw [Option.mem_def.1 hgiven, Option.bind_some, hkept] at hhost
    cases hhost
  | some host =>
    obtain ⟨given, hgiven, hnonempty⟩ := Option.bind_eq_some_iff.1 hhost
    rw [Text.nonempty?, Option.ite_none_left_eq_some, List.isEmpty_iff] at hnonempty
    obtain ⟨hne, hsame⟩ := hnonempty
    cases hsame
    rw [ofUrl, hhost]
    dsimp only
    split
    · rename_i hlocal
      exact .inl ⟨host, hgiven, hne, hlocal.1, rfl, hlocal.2⟩
    · rename_i hlocal
      refine .inr ⟨rfl, ?_⟩
      intro hsame other hother _
      cases hgiven.symm.trans hother
      exact Classical.not_not.1 fun hdiffers => hlocal ⟨hsame, hdiffers⟩

theorem isWritable_ofUrl (hvisit : visit.IsWritable) (target : Url) (hurl : url.IsClean) :
    HeaderValue.IsWritable (ofUrl visit target url) := by
  rcases ofUrl_cases visit target url with ⟨host, hhost, -, -, hlocal, -⟩ | ⟨hown, -⟩
  · rw [hlocal]
    exact isWritable_localAddress hvisit (hvisit.host host hhost) hurl
  · rw [hown]
    exact isWritable_of_isPrintable hurl.isPrintable_render

/-- What a client is sent to can be a value if the host, the mount and the location
that it is made of can. -/
theorem isWritable_forClient (hvisit : visit.IsWritable) (hcurrent : current.IsClean)
    (target : Url) (hlocation : HeaderValue.IsWritable location) :
    HeaderValue.IsWritable (forClient visit current target location) := by
  rw [forClient]
  apply isWritable_mounted hvisit
  split
  · rename_i url hjoin
    exact isWritable_ofUrl hvisit target (Url.isClean_of_join hcurrent hjoin)
  · exact hlocation

end Client

end Location

end RuleGateway
