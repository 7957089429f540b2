import RuleGateway.Proofs.Path
import RuleGateway.Proofs.Text.WellFormed

/-!
# Escaped slashes

A path with escapes spells a text. A slash of the text is a slash of the path or an escaped
one, and what stands around it in the path spells what stands around it in the text
(`spells_slash_iff`, `exists_slash`). No path spells a text that the path itself goes on from
with a slash (`ne_append_of_spells`), and none with a percent sign spells itself.
-/

namespace RuleGateway

namespace Utf8

/-- The bytes around those of a character are the bytes of what stands around it. -/
theorem exists_of_encode_eq {text : Text} {front back : Bytes} {c : Char}
    (h : encode text = front ++ (encodeChar c ++ back)) :
    ∃ before behind, text = before ++ c :: behind ∧ encode before = front ∧
      encode behind = back := by
  have hmarks : marks none (front ++ (encodeChar c ++ back)) = text.map some := by
    rw [← h, marks_encode]
  obtain ⟨before, behind, hbefore, hbehind⟩ := exists_of_marks_encodeChar isReached_none hmarks
  have hfront : encode before = front := by
    refine encode_of_marks .between ?_
    have hend := hbefore []
    rwa [List.append_nil, marks, List.append_nil] at hend
  have hback : encode behind = back := encode_of_marks .between hbehind
  refine ⟨before, behind, encode_injective ?_, hfront, hback⟩
  rw [h, encode_append, encode_cons, hfront, hback]

/-- A byte of ASCII is the character before it or comes behind all of its bytes. -/
theorem encodeChar_append_cases {c d : Char} (hd : d.toNat < 0x80) {bytes before behind : Bytes}
    (h : encodeChar c ++ bytes = before ++ (encodeChar d ++ behind)) :
    c = d ∧ before = [] ∧ bytes = behind ∨
      ∃ more, before = encodeChar c ++ more ∧ bytes = more ++ (encodeChar d ++ behind) := by
  have hbyte := encodeChar_of_lt hd
  rcases List.append_eq_append_iff.1 h with ⟨more, hbefore, hbytes⟩ | ⟨more, hc, hmore⟩
  · exact .inr ⟨more, hbefore, hbytes⟩
  cases more with
  | nil =>
    rw [List.append_nil] at hc
    exact .inr ⟨[], by rw [hc, List.append_nil], hmore.symm⟩
  | cons b more =>
    rw [hbyte, List.singleton_append, List.cons_append] at hmore
    obtain ⟨rfl, hbehind⟩ := List.cons.inj hmore
    have hmem : d.toNat.toUInt8 ∈ encode [c] := by
      rw [encode, List.flatMap_singleton, hc]
      exact List.mem_append_right before List.mem_cons_self
    obtain rfl := List.mem_singleton.1 (mem_of_mem_encode hd hmem)
    have hlength := congrArg List.length hc
    rw [hbyte, List.length_append, List.length_singleton, List.length_cons] at hlength
    obtain rfl : before = [] := List.eq_nil_of_length_eq_zero (by omega)
    obtain rfl : more = [] := List.eq_nil_of_length_eq_zero (by omega)
    exact .inl ⟨rfl, rfl, hbehind.symm⟩

end Utf8

namespace Percent

/-- Whether a text with escapes stands for a text. -/
def Spells (path text : Text) : Prop := decode? path = some (Utf8.encode text)

/-- Whether every percent sign of a path starts an escape, and the bytes are UTF-8. -/
def IsReadable (path : Text) : Prop := ∃ text, Spells path text

variable {path text front back : Text}

theorem spells_iff : Spells path text ↔ (decode? path).bind Utf8.decode? = some text := by
  rw [Option.bind_eq_some_iff]
  constructor
  · intro h
    exact ⟨_, h, Utf8.decode?_encode text⟩
  · rintro ⟨bytes, hbytes, htext⟩
    rw [Spells, hbytes, Utf8.encode_of_decode? htext]

theorem Spells.decode_eq (h : Spells path text) : Path.decode path = text := by
  rw [Path.decode, spells_iff.1 h, Option.getD_some]

theorem decode_of_not_isReadable (h : ¬ IsReadable path) : Path.decode path = path := by
  have hnone : (decode? path).bind Utf8.decode? = none := by
    apply Option.eq_none_iff_forall_ne_some.2
    intro text htext
    exact h ⟨text, spells_iff.2 htext⟩
  rw [Path.decode, hnone, Option.getD_none]

theorem Spells.length_le (h : Spells path text) : text.length ≤ path.length := by
  have hlength := Path.length_decode_le path
  rwa [h.decode_eq] at hlength

theorem spells_cons_iff {c : Char} (hc : c ≠ '%') :
    Spells (c :: path) text ↔ ∃ rest, text = c :: rest ∧ Spells path rest := by
  rw [Spells, decode?_cons hc, Option.map_eq_some_iff]
  constructor
  · rintro ⟨bytes, hbytes, htext⟩
    have hcut : Utf8.encode text = [] ++ (Utf8.encodeChar c ++ bytes) := htext.symm
    obtain ⟨before, rest, rfl, hbefore, hrest⟩ := Utf8.exists_of_encode_eq hcut
    obtain rfl : before = [] := Utf8.encode_injective hbefore
    refine ⟨rest, rfl, ?_⟩
    rw [Spells, hbytes, hrest]
  · rintro ⟨rest, rfl, hrest⟩
    exact ⟨_, hrest, (Utf8.encode_cons c rest).symm⟩

/-- What has no percent sign spells itself, whatever follows. -/
theorem spells_append_iff (hfront : '%' ∉ front) :
    Spells (front ++ back) text ↔ ∃ rest, text = front ++ rest ∧ Spells back rest := by
  induction front generalizing text with
  | nil => simp
  | cons c front ih =>
    rw [List.mem_cons, not_or] at hfront
    rw [List.cons_append, spells_cons_iff (Ne.symm hfront.1)]
    simp only [ih hfront.2, List.cons_append]
    constructor
    · rintro ⟨_, rfl, rest, rfl, hback⟩
      exact ⟨rest, rfl, hback⟩
    · rintro ⟨rest, rfl, hback⟩
      exact ⟨_, rfl, rest, rfl, hback⟩

theorem spells_nil_iff : Spells path [] ↔ path = [] := by
  constructor
  · intro h
    cases path with
    | nil => rfl
    | cons c path =>
      by_cases hc : c = '%'
      · subst hc
        cases hbyte : byteAt? path with
        | none => rw [Spells, decode?_of_not_byteAt? hbyte] at h; cases h
        | some b =>
          rw [Spells, decode?_of_byteAt? hbyte, Option.map_eq_some_iff] at h
          obtain ⟨bytes, -, hbytes⟩ := h
          cases hbytes
      · obtain ⟨rest, hrest, -⟩ := (spells_cons_iff hc).1 h
        cases hrest
  · rintro rfl
    rfl

theorem nil_spells_iff : Spells [] text ↔ text = [] := by
  constructor
  · intro h
    exact Utf8.encode_injective (Option.some.inj h).symm
  · rintro rfl
    rfl

/-- A percent sign spells itself nowhere: an escape stands for less than it is long. -/
theorem not_mem_of_spells_self (h : Spells path path) : '%' ∉ path := by
  intro hmem
  obtain ⟨front, back, rfl, hfront⟩ := List.eq_append_cons_of_mem hmem
  obtain ⟨rest, hrest, hback⟩ := (spells_append_iff hfront).1 h
  obtain rfl := List.append_cancel_left hrest
  cases hbyte : byteAt? back with
  | none => rw [Spells, decode?_of_not_byteAt? hbyte] at hback; cases hback
  | some b =>
    rw [Spells, decode?_of_byteAt? hbyte, Option.map_eq_some_iff] at hback
    obtain ⟨bytes, hbytes, hcons⟩ := hback
    rw [Utf8.encode_cons, Utf8.encodeChar_of_lt (by decide), List.singleton_append] at hcons
    have hrest : Spells (back.drop 2) back := by
      rw [Spells, hbytes, (List.cons.inj hcons).2]
    have hlength := hrest.length_le
    rw [List.length_drop] at hlength
    have hempty : back = [] := List.eq_nil_of_length_eq_zero (by omega)
    rw [hempty] at hbyte
    cases hbyte

section Slash

/-- The ways of writing a slash. -/
def slashes : List Text := ["/", "%2F", "%2f"]

variable {slash : Text}

theorem decode?_append_slash (hslash : slash ∈ slashes) (front back : Text) :
    decode? (front ++ (slash ++ back)) =
      (decode? front).bind fun bytes =>
        (decode? back).map fun more => bytes ++ (Utf8.encodeChar '/' ++ more) := by
  have hread : decode? (slash ++ back) = (decode? back).map (Utf8.encodeChar '/' ++ ·) := by
    simp only [slashes, List.mem_cons, List.not_mem_nil, or_false] at hslash
    rcases hslash with rfl | rfl | rfl
    · exact decode?_cons (by decide) back
    · have hbyte : byteAt? ('2' :: 'F' :: back) = some 0x2F := by
        rw [byteAt?]
        decide
      exact decode?_of_byteAt? hbyte
    · have hbyte : byteAt? ('2' :: 'f' :: back) = some 0x2F := by
        rw [byteAt?]
        decide
      exact decode?_of_byteAt? hbyte
  have hdigit : ∀ c, (slash ++ back).head? = some c → Text.hexDigit? c = none := by
    simp only [slashes, List.mem_cons, List.not_mem_nil, or_false] at hslash
    rintro c hc
    rcases hslash with rfl | rfl | rfl
    all_goals
      cases hc
      decide
  rw [decode?_append hdigit, hread]
  cases decode? front with
  | none => rfl
  | some bytes => cases decode? back <;> rfl

/-- What stands around a slash, however it is written, is spelled by itself. -/
theorem spells_slash_iff (hslash : slash ∈ slashes) :
    Spells (front ++ (slash ++ back)) text ↔
      ∃ before behind, text = before ++ '/' :: behind ∧ Spells front before ∧
        Spells back behind := by
  rw [Spells, decode?_append_slash hslash]
  constructor
  · intro h
    obtain ⟨bytes, hfront, hrest⟩ := Option.bind_eq_some_iff.1 h
    obtain ⟨more, hback, htext⟩ := Option.map_eq_some_iff.1 hrest
    obtain ⟨before, behind, rfl, rfl, rfl⟩ := Utf8.exists_of_encode_eq htext.symm
    exact ⟨before, behind, rfl, hfront, hback⟩
  · rintro ⟨before, behind, rfl, hfront, hback⟩
    rw [hfront, Option.bind_some, hback, Option.map_some, Utf8.encode_append, Utf8.encode_cons]

theorem spells_plain_slash_iff :
    Spells (front ++ '/' :: back) text ↔
      ∃ before behind, text = before ++ '/' :: behind ∧ Spells front before ∧
        Spells back behind :=
  spells_slash_iff List.mem_cons_self

theorem byte?_eq_some_iff {high low : Char} {b : UInt8} :
    byte? high low = some b ↔ ∃ m n, Text.hexDigit? high = some m ∧
      Text.hexDigit? low = some n ∧ (m * 16 + n).toUInt8 = b := by
  cases hhigh : Text.hexDigit? high <;> cases hlow : Text.hexDigit? low <;>
    simp [byte?, hhigh, hlow]

/-- The escapes of a slash. -/
theorem byte?_eq_slash {high low : Char} (h : byte? high low = some 0x2F) :
    ['%', high, low] ∈ slashes := by
  have hbound : ∀ c ∈ Text.hexDigits, ∀ n ∈ Text.hexDigit? c, n < 16 :=
    Text.forall_mem (by decide)
  have htwo : ∀ c ∈ Text.hexDigits, Text.hexDigit? c = some 2 → c = '2' :=
    Text.forall_mem (by decide)
  have hlast : ∀ c ∈ Text.hexDigits, Text.hexDigit? c = some 15 → c = 'F' ∨ c = 'f' :=
    Text.forall_mem (by decide)
  obtain ⟨m, n, hm, hn, hbyte⟩ := byte?_eq_some_iff.1 h
  have hhigh := Text.mem_hexDigits_of_hexDigit? (Option.isSome_of_eq_some hm)
  have hlow := Text.mem_hexDigits_of_hexDigit? (Option.isSome_of_eq_some hn)
  have hm' := hbound high hhigh m hm
  have hn' := hbound low hlow n hn
  have hvalue : m * 16 + n = 47 := by
    have hread : (m * 16 + n).toUInt8.toNat = m * 16 + n :=
      UInt8.toNat_ofNat_of_lt' (show _ < 0x100 by omega)
    rw [← hread, hbyte]
    rfl
  obtain rfl : m = 2 := by omega
  obtain rfl : n = 15 := by omega
  obtain rfl := htwo high hhigh hm
  rcases hlast low hlow hn with rfl | rfl
  · exact List.mem_cons_of_mem _ List.mem_cons_self
  · exact List.mem_cons_of_mem _ (List.mem_cons_of_mem _ List.mem_cons_self)

theorem exists_of_byteAt? {text : Text} {b : UInt8} (h : byteAt? text = some b) :
    ∃ high low rest, text = high :: low :: rest := by
  cases text with
  | nil => cases h
  | cons high text =>
    cases text with
    | nil => cases h
    | cons low rest => exact ⟨high, low, rest, rfl⟩

/-- Where a path gives the byte of a slash, it has a slash written in one of the ways. -/
theorem exists_slash_of_decode? {before behind : Bytes}
    (h : decode? path = some (before ++ (Utf8.encodeChar '/' ++ behind))) :
    ∃ slash ∈ slashes, ∃ front back, path = front ++ (slash ++ back) ∧
      decode? front = some before ∧ decode? back = some behind := by
  have hslash : Utf8.encodeChar '/' = [0x2F] := by decide
  induction path using reading generalizing before with
  | nil =>
    rw [decode?, Option.some_inj, hslash] at h
    simp at h
  | percent path hbyte ih =>
    rw [decode?_of_not_byteAt? hbyte] at h
    cases h
  | escaped path b hbyte ih =>
    obtain ⟨high, low, path, rfl⟩ := exists_of_byteAt? hbyte
    rw [decode?_of_byteAt? hbyte, Option.map_eq_some_iff] at h
    obtain ⟨bytes, hbytes, hcut⟩ := h
    cases before with
    | nil =>
      rw [hslash] at hcut
      cases hcut
      exact ⟨_, byte?_eq_slash hbyte, [], path, rfl, rfl, hbytes⟩
    | cons d before =>
      cases hcut
      obtain ⟨slash, hmem, front, back, hpath, hfront, hback⟩ := ih hbytes
      rw [List.drop_succ_cons, List.drop_succ_cons, List.drop_zero] at hpath
      refine ⟨slash, hmem, '%' :: high :: low :: front, back, by rw [hpath]; rfl, ?_, hback⟩
      have hbyte' : byteAt? (high :: low :: front) = some b := hbyte
      rw [decode?_of_byteAt? hbyte']
      exact congrArg (Option.map (b :: ·)) hfront
  | other c path hc ih =>
    rw [decode?_cons hc, Option.map_eq_some_iff] at h
    obtain ⟨bytes, hbytes, hcut⟩ := h
    rcases Utf8.encodeChar_append_cases (by decide) hcut with ⟨rfl, rfl, rfl⟩ | ⟨more, rfl, rfl⟩
    · exact ⟨['/'], List.mem_cons_self, [], path, rfl, rfl, hbytes⟩
    · obtain ⟨slash, hmem, front, back, rfl, hfront, hback⟩ := ih hbytes
      refine ⟨slash, hmem, c :: front, back, rfl, ?_, hback⟩
      rw [decode?_cons hc, hfront]
      rfl

/-- A slash of the text is a slash of the path, written in one of the ways. -/
theorem exists_slash (before behind : Text) (h : Spells path (before ++ '/' :: behind)) :
    ∃ slash ∈ slashes, ∃ front back, path = front ++ (slash ++ back) ∧ Spells front before ∧
      Spells back behind := by
  rw [Spells, Utf8.encode_append, Utf8.encode_cons] at h
  exact exists_slash_of_decode? h

/-- No path is what it spells with more behind a slash: what it spells would itself be
what that spells with more behind a slash, and so on without end. -/
theorem ne_append_of_spells (h : Spells path text) (rest : Text) : path ≠ text ++ '/' :: rest := by
  induction hn : path.length using Nat.strongRecOn generalizing path text rest with
  | ind n ih =>
    rintro rfl
    obtain ⟨before, behind, rfl, hbefore, -⟩ := spells_plain_slash_iff.1 h
    refine ih _ ?_ hbefore behind rfl rfl
    rw [← hn]
    simp only [List.length_append, List.length_cons]
    omega

end Slash

end Percent

end RuleGateway
