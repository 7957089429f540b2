import RuleGateway.Proofs.Percent.Slash

/-!
# Every way of encoding a text

An encoder may escape what it likes, in either letter case, as long as it escapes a
character as a whole and leaves no percent sign. A path is decoded to the text that it is
an encoding of, whichever that encoder was, and a path that is no encoding of a text stays
as it is (`decode_eq_iff`). There are two reasons why it may be none: a percent sign that
starts no escape, or bytes that are no UTF-8.
-/

namespace RuleGateway

namespace Utf8

/-- The bytes of a character behind the first are those that go on with a sequence. -/
theorem exists_encodeChar_cons (c : Char) :
    ∃ b more, encodeChar c = b :: more ∧ ∀ d ∈ more, 0x80 ≤ d.toNat ∧ d.toNat < 0xC0 := by
  have hdigit (n : Nat) : 0x80 ≤ (0x80 + n % 64).toUInt8.toNat ∧
      (0x80 + n % 64).toUInt8.toNat < 0xC0 := by
    rw [UInt8.toNat_ofNat_of_lt' (show _ < 0x100 by omega)]
    omega
  rw [encodeChar]
  split
  · exact ⟨_, _, rfl, by simp⟩
  split
  · exact ⟨_, _, rfl, by simpa using hdigit _⟩
  split
  · exact ⟨_, _, rfl, by simpa using ⟨hdigit _, hdigit _⟩⟩
  · exact ⟨_, _, rfl, by simpa using ⟨hdigit _, hdigit _, hdigit _⟩⟩

end Utf8

namespace Percent

section Definitions

/-- Whether a text is a path in which characters may be escaped, in digits of either
case, and percent signs are. -/
inductive Encodes : Text → Text → Prop
  | nil : Encodes [] []
  | kept {c : Char} {path text : Text} (hc : c ≠ '%') (h : Encodes path text) :
    Encodes (c :: path) (c :: text)
  | escaped {c : Char} {written path text : Text}
      (hwritten : Text.sameLetters written (escapeChar c)) (h : Encodes path text) :
    Encodes (written ++ path) (c :: text)

/-- Whether a path gives some bytes: those of its characters, and one for each escape. -/
inductive Yields : Text → Bytes → Prop
  | nil : Yields [] []
  | kept {c : Char} {path : Text} {bytes : Bytes} (hc : c ≠ '%') (h : Yields path bytes) :
    Yields (c :: path) (Utf8.encodeChar c ++ bytes)
  | escaped {b : UInt8} {written path : Text} {bytes : Bytes}
      (hwritten : Text.sameLetters written (escape b)) (h : Yields path bytes) :
    Yields (written ++ path) (b :: bytes)

/-- Whether a path has a percent sign without two hexadecimal digits behind it. -/
def IsMalformed (path : Text) : Prop :=
  ∃ front back, path = front ++ '%' :: back ∧
    ¬ ∃ high low rest, back = high :: low :: rest ∧
      high ∈ Text.hexDigits ∧ low ∈ Text.hexDigits

end Definitions

section Escapes

variable {written path : Text} {b : UInt8} {bytes rest : Bytes}

/-- A hexadecimal digit has its value in either case. -/
theorem hexDigit?_toLower (c : Char) : Text.hexDigit? c.toLower = Text.hexDigit? c := by
  by_cases hc : c.toNat < 0x80
  · have hall : ∀ n < 128,
        Text.hexDigit? (Char.ofNat n).toLower = Text.hexDigit? (Char.ofNat n) := by decide
    exact Text.forall_ascii (p := fun c => Text.hexDigit? c.toLower = Text.hexDigit? c) hall hc
  · rw [Text.toLower_of_le (Nat.le_of_not_lt hc)]

theorem hexDigit?_eq_of_toLower {c d : Char} (h : c.toLower = d.toLower) :
    Text.hexDigit? c = Text.hexDigit? d := by
  rw [← hexDigit?_toLower c, h, hexDigit?_toLower]

theorem byte?_digit (b : UInt8) : byte? (digit (b.toNat / 16)) (digit (b.toNat % 16)) = some b := by
  have hdigit : ∀ n < 16, Text.hexDigit? (digit n) = some n := by decide
  have hb := b.toNat_lt
  have hwhole : b.toNat / 16 * 16 + b.toNat % 16 = b.toNat := Nat.div_add_mod' _ _
  refine byte?_eq_some_iff.2 ⟨_, _, hdigit _ (by omega), hdigit _ (by omega), ?_⟩
  rw [hwhole]
  exact UInt8.ofNat_toNat

/-- The escapes of a byte, in digits of either case. -/
theorem sameLetters_escape_iff :
    Text.sameLetters written (escape b) ↔
      ∃ high low, written = ['%', high, low] ∧ byte? high low = some b := by
  rw [Text.sameLetters, beq_iff_eq]
  constructor
  · intro h
    obtain ⟨percent, digits, rfl, hpercent, hdigits⟩ := List.map_eq_cons_iff.1 h
    obtain ⟨high, lows, rfl, hhigh, hlows⟩ := List.map_eq_cons_iff.1 hdigits
    obtain ⟨low, none, rfl, hlow, hnone⟩ := List.map_eq_cons_iff.1 hlows
    obtain rfl := List.map_eq_nil_iff.1 hnone
    obtain rfl : percent = '%' := Text.eq_of_toLower (by decide) hpercent
    refine ⟨high, low, rfl, ?_⟩
    rw [byte?, hexDigit?_eq_of_toLower hhigh, hexDigit?_eq_of_toLower hlow]
    exact byte?_digit b
  · rintro ⟨high, low, rfl, hbyte⟩
    have hall : ∀ c ∈ Text.hexDigits, ∀ n ∈ Text.hexDigit? c,
        n < 16 ∧ c.toLower = (digit n).toLower := Text.forall_mem (by decide)
    obtain ⟨m, n, hm, hn, rfl⟩ := byte?_eq_some_iff.1 hbyte
    obtain ⟨hm', hhigh⟩ := hall high (Text.mem_hexDigits_of_hexDigit? (by simp [hm])) m hm
    obtain ⟨hn', hlow⟩ := hall low (Text.mem_hexDigits_of_hexDigit? (by simp [hn])) n hn
    have hdiv : (m * 16 + n) / 16 = m := by omega
    have hmod : (m * 16 + n) % 16 = n := by omega
    rw [escape, UInt8.toNat_ofNat_of_lt' (show _ < 0x100 by omega), hdiv, hmod, Text.lower, Text.lower]
    simp only [List.map_cons, hhigh, hlow]

theorem decode?_escaped (h : Text.sameLetters written (escape b)) (path : Text) :
    decode? (written ++ path) = (decode? path).map (b :: ·) := by
  obtain ⟨high, low, rfl, hbyte⟩ := sameLetters_escape_iff.1 h
  have hat : byteAt? (high :: low :: path) = some b := hbyte
  exact decode?_of_byteAt? hat

/-- Bytes may be escaped one by one. -/
theorem sameLetters_flatMap_cons :
    Text.sameLetters written ((b :: bytes).flatMap escape) ↔
      ∃ first others, written = first ++ others ∧ Text.sameLetters first (escape b) ∧
        Text.sameLetters others (bytes.flatMap escape) := by
  simp only [Text.sameLetters, beq_iff_eq, Text.lower, List.flatMap_cons, List.map_append]
  exact List.map_eq_append_iff

theorem decode?_written (h : Text.sameLetters written (bytes.flatMap escape)) (path : Text) :
    decode? (written ++ path) = (decode? path).map (bytes ++ ·) := by
  induction bytes generalizing written with
  | nil =>
    obtain rfl : written = [] := List.map_eq_nil_iff.1 (beq_iff_eq.1 h)
    exact Option.map_id'.symm
  | cons b bytes ih =>
    obtain ⟨first, others, rfl, hfirst, hothers⟩ := sameLetters_flatMap_cons.1 h
    rw [List.append_assoc, decode?_escaped hfirst, ih hothers, Option.map_map]
    rfl

/-- A percent sign in a path that gives bytes starts the escape of the first. -/
theorem exists_escape (h : decode? ('%' :: path) = some bytes) :
    ∃ first back b more, '%' :: path = first ++ back ∧ Text.sameLetters first (escape b) ∧
      decode? back = some more ∧ bytes = b :: more := by
  cases hbyte : byteAt? path with
  | none =>
    rw [decode?_of_not_byteAt? hbyte] at h
    cases h
  | some b =>
    obtain ⟨high, low, path, rfl⟩ := exists_of_byteAt? hbyte
    rw [decode?_of_byteAt? hbyte, Option.map_eq_some_iff] at h
    obtain ⟨more, hmore, rfl⟩ := h
    exact ⟨['%', high, low], path, b, more, rfl,
      sameLetters_escape_iff.2 ⟨high, low, rfl, hbyte⟩, hmore, rfl⟩

/-- Bytes that begin no character are given by escapes. -/
theorem exists_written (hbytes : ∀ d ∈ bytes, 0x80 ≤ d.toNat ∧ d.toNat < 0xC0)
    (h : decode? path = some (bytes ++ rest)) :
    ∃ written back, path = written ++ back ∧
      Text.sameLetters written (bytes.flatMap escape) ∧ decode? back = some rest := by
  induction bytes generalizing path with
  | nil => exact ⟨[], path, rfl, rfl, h⟩
  | cons b bytes ih =>
    obtain ⟨hlow, hhigh⟩ := hbytes b List.mem_cons_self
    cases path with
    | nil => cases h
    | cons c path =>
      by_cases hc : c = '%'
      · subst hc
        obtain ⟨first, back, d, more, hpath, hfirst, hback, heq⟩ := exists_escape h
        obtain ⟨rfl, rfl⟩ := List.cons.inj heq
        obtain ⟨others, back, rfl, hothers, hrest⟩ :=
          ih (fun d hd => hbytes d (List.mem_cons_of_mem _ hd)) hback
        exact ⟨first ++ others, back, by rw [hpath, List.append_assoc],
          sameLetters_flatMap_cons.2 ⟨_, _, rfl, hfirst, hothers⟩, hrest⟩
      · -- a character begins with a byte that goes on with no sequence
        obtain ⟨lead, more, hencode, hlead⟩ := Utf8.exists_encodeChar_eq c
        rw [decode?_cons hc, Option.map_eq_some_iff] at h
        obtain ⟨_, -, heq⟩ := h
        rw [hencode] at heq
        obtain ⟨rfl, -⟩ := List.cons.inj heq
        omega

end Escapes

section Decoding

variable {path text : Text} {bytes : Bytes}

/-- The paths that give bytes are those in which every percent sign starts an escape. -/
theorem yields_iff : Yields path bytes ↔ decode? path = some bytes := by
  constructor
  · intro h
    induction h with
    | nil => rfl
    | kept hc h ih => rw [decode?_cons hc, ih, Option.map_some]
    | escaped hwritten h ih => rw [decode?_escaped hwritten, ih, Option.map_some]
  · intro h
    induction path using reading generalizing bytes with
    | nil =>
      cases h
      exact .nil
    | percent path hbyte ih =>
      rw [decode?_of_not_byteAt? hbyte] at h
      cases h
    | escaped path b hbyte ih =>
      obtain ⟨high, low, path, rfl⟩ := exists_of_byteAt? hbyte
      rw [decode?_of_byteAt? hbyte, Option.map_eq_some_iff] at h
      obtain ⟨bytes, hbytes, rfl⟩ := h
      exact .escaped (sameLetters_escape_iff.2 ⟨high, low, rfl, hbyte⟩) (ih hbytes)
    | other c path hc ih =>
      rw [decode?_cons hc, Option.map_eq_some_iff] at h
      obtain ⟨bytes, hbytes, rfl⟩ := h
      exact .kept hc (ih hbytes)

/-- A path is an encoding of a text if and only if it gives the bytes of the text. -/
theorem encodes_iff : Encodes path text ↔ Spells path text := by
  constructor
  · intro h
    induction h with
    | nil => rfl
    | kept hc h ih => exact (spells_cons_iff hc).2 ⟨_, rfl, ih⟩
    | @escaped c written path text hwritten h ih =>
      rw [Spells, decode?_written hwritten, ih, Option.map_some, Utf8.encode_cons]
  · intro h
    induction text generalizing path with
    | nil =>
      obtain rfl := spells_nil_iff.1 h
      exact .nil
    | cons c text ih =>
      cases path with
      | nil => cases nil_spells_iff.1 h
      | cons d path =>
        by_cases hd : d = '%'
        · subst hd
          obtain ⟨first, back, b, bytes, hpath, hfirst, hback, heq⟩ := exists_escape h
          obtain ⟨lead, more, hencode, hmore⟩ := Utf8.exists_encodeChar_cons c
          rw [Utf8.encode_cons, hencode] at heq
          obtain ⟨rfl, rfl⟩ := List.cons.inj heq
          -- the other bytes of the character begin none, so they are escaped too
          obtain ⟨others, back, rfl, hothers, hrest⟩ := exists_written hmore hback
          have hwritten : Text.sameLetters (first ++ others) (escapeChar c) := by
            rw [escapeChar, hencode]
            exact sameLetters_flatMap_cons.2 ⟨_, _, rfl, hfirst, hothers⟩
          rw [hpath, ← List.append_assoc]
          exact .escaped hwritten (ih hrest)
        · obtain ⟨rest, heq, hrest⟩ := (spells_cons_iff hd).1 h
          obtain ⟨rfl, rfl⟩ := List.cons.inj heq
          exact .kept hd (ih hrest)

theorem byteAt?_eq_none_iff {back : Text} :
    byteAt? back = none ↔ ¬ ∃ high low rest, back = high :: low :: rest ∧
      high ∈ Text.hexDigits ∧ low ∈ Text.hexDigits := by
  have hall : ∀ c ∈ Text.hexDigits, (Text.hexDigit? c).isSome := Text.forall_mem (by decide)
  constructor
  · rintro hnone ⟨high, low, rest, rfl, hhigh, hlow⟩
    obtain ⟨m, hm⟩ := Option.isSome_iff_exists.1 (hall high hhigh)
    obtain ⟨n, hn⟩ := Option.isSome_iff_exists.1 (hall low hlow)
    have hbyte := byte?_eq_some_iff.2 ⟨m, n, hm, hn, rfl⟩
    rw [byteAt?, hbyte] at hnone
    cases hnone
  · intro h
    cases hbyte : byteAt? back with
    | none => rfl
    | some b =>
      obtain ⟨high, low, rest, rfl⟩ := exists_of_byteAt? hbyte
      obtain ⟨hhigh, hlow⟩ := byte?_eq_some hbyte
      exact absurd ⟨high, low, rest, rfl, Text.mem_hexDigits_of_hexDigit? hhigh,
        Text.mem_hexDigits_of_hexDigit? hlow⟩ h

/-- A path is malformed at its start or behind it. -/
theorem isMalformed_cons_iff {c : Char} :
    IsMalformed (c :: path) ↔ c = '%' ∧ byteAt? path = none ∨ IsMalformed path := by
  constructor
  · rintro ⟨front, back, heq, hback⟩
    cases front with
    | nil =>
      obtain ⟨rfl, rfl⟩ := List.cons.inj heq
      exact .inl ⟨rfl, byteAt?_eq_none_iff.2 hback⟩
    | cons d front => exact .inr ⟨front, back, (List.cons.inj heq).2, hback⟩
  · rintro (⟨rfl, hbyte⟩ | ⟨front, back, rfl, hback⟩)
    · exact ⟨[], path, rfl, byteAt?_eq_none_iff.1 hbyte⟩
    · exact ⟨c :: front, back, rfl, hback⟩

/-- A path gives no bytes if and only if one of its percent signs starts no escape. -/
theorem isMalformed_iff : IsMalformed path ↔ decode? path = none := by
  induction path using reading with
  | nil =>
    refine iff_of_false ?_ nofun
    rintro ⟨front, back, heq, -⟩
    cases front <;> cases heq
  | percent path hbyte ih =>
    exact iff_of_true (isMalformed_cons_iff.2 (.inl ⟨rfl, hbyte⟩)) (decode?_of_not_byteAt? hbyte)
  | escaped path b hbyte ih =>
    -- the digits of an escape are no percent signs, so the next one is behind them
    have hdigit : ∀ c ∈ Text.hexDigits, c ≠ '%' := Text.forall_mem (by decide)
    obtain ⟨high, low, path, rfl⟩ := exists_of_byteAt? hbyte
    obtain ⟨hhigh, hlow⟩ := byte?_eq_some hbyte
    have hhigh' := hdigit high (Text.mem_hexDigits_of_hexDigit? hhigh)
    have hlow' := hdigit low (Text.mem_hexDigits_of_hexDigit? hlow)
    have hsome : byteAt? (high :: low :: path) ≠ none := by simp [hbyte]
    rw [decode?_of_byteAt? hbyte, Option.map_eq_none_iff, ← ih, isMalformed_cons_iff,
      isMalformed_cons_iff, isMalformed_cons_iff]
    simp [hsome, hhigh', hlow']
  | other c path hc ih =>
    rw [isMalformed_cons_iff, decode?_cons hc, Option.map_eq_none_iff, ih]
    exact or_iff_right fun h => hc h.1

/-- A path that spells nothing has a percent sign that starts no escape, or gives bytes that
are no UTF-8. -/
theorem not_isReadable_iff : ¬ IsReadable path ↔
    IsMalformed path ∨ ∃ bytes, Yields path bytes ∧ ¬ Utf8.IsText bytes := by
  simp only [yields_iff, isMalformed_iff, IsReadable, Spells]
  cases decode? path with
  | none => simp
  | some bytes =>
    simp only [Option.some_inj, reduceCtorEq, false_or, exists_eq_left']
    exact not_congr (exists_congr fun text => eq_comm)

end Decoding

end Percent

namespace Path

open Percent in
/-- A path is decoded to the text that it encodes. Where a percent sign starts no escape, or
the bytes are no UTF-8, the path is left as it is, and there is no other case. -/
theorem decode_eq_iff {path text : Text} :
    decode path = text ↔ Encodes path text ∨
      text = path ∧ (IsMalformed path ∨ ∃ bytes, Yields path bytes ∧ ¬ Utf8.IsText bytes) := by
  rw [encodes_iff, ← not_isReadable_iff]
  by_cases hreadable : IsReadable path
  · obtain ⟨read, hread⟩ := hreadable
    rw [hread.decode_eq]
    constructor
    · rintro rfl
      exact .inl hread
    · rintro (htext | ⟨-, hnone⟩)
      · rw [← hread.decode_eq, htext.decode_eq]
      · exact absurd ⟨read, hread⟩ hnone
  · rw [decode_of_not_isReadable hreadable]
    constructor
    · rintro rfl
      exact .inr ⟨rfl, hreadable⟩
    · rintro (htext | ⟨rfl, -⟩)
      · exact absurd ⟨text, htext⟩ hreadable
      · rfl

end Path

end RuleGateway
