import Mathlib.Algebra.Group.Nat.Defs
import RuleGateway.Proofs.Text.Utf8

/-!
# Bytes that are a text

Bytes are read well exactly if they are those of a text (`isSome_decode?_iff`): the
decoder gives a character only for the one sequence that writes it. What stands around
a text within a text is therefore a text again (`IsText.delete`), and lenient reading
keeps the bytes of texts and of nothing else (`encode_decodeLossy_iff`).
-/

namespace RuleGateway.Utf8

section Characters

/-- The bytes that a value ends with: its last digits to base 64. -/
def digits : Nat → Nat → Bytes
  | 0, _ => []
  | more + 1, n => (0x80 + n / 64 ^ more % 64).toUInt8 :: digits more n

theorem encodeChar_of_two {n : Nat} (hlow : 0x80 ≤ n) (hhigh : n < 0x800) :
    encodeChar (Char.ofNat n) = (0xC0 + n / 64).toUInt8 :: digits 1 n := by
  have hn : (Char.ofNat n).toNat = n := toNat_ofNat (.inl (by omega))
  rw [encodeChar, hn, if_neg (by omega), if_pos hhigh]
  simp [digits]

theorem encodeChar_of_three {n : Nat} (hlow : 0x800 ≤ n) (hhigh : n < 0x10000)
    (hvalid : n < 0xD800 ∨ 0xDFFF < n) :
    encodeChar (Char.ofNat n) = (0xE0 + n / 4096).toUInt8 :: digits 2 n := by
  have hn : (Char.ofNat n).toNat = n := toNat_ofNat (hvalid.imp id fun h => ⟨h, by omega⟩)
  rw [encodeChar, hn, if_neg (by omega), if_neg (by omega), if_pos hhigh]
  simp [digits]

theorem encodeChar_of_four {n : Nat} (hlow : 0x10000 ≤ n) (hhigh : n < 0x110000) :
    encodeChar (Char.ofNat n) = (0xF0 + n / 262144).toUInt8 :: digits 3 n := by
  have hn : (Char.ofNat n).toNat = n := toNat_ofNat (.inr ⟨by omega, hhigh⟩)
  rw [encodeChar, hn, if_neg (by omega), if_neg (by omega), if_neg (by omega)]
  simp [digits]

end Characters

section Sequences

/-- The sequence that waits after some bytes goes on with the last digits of every character
that it can become. -/
def Pending.Follows (p : Pending) (seen : Bytes) : Prop :=
  ∀ n, n / 64 ^ p.owed = p.value → p.low ≤ 0x80 + n / 64 ^ (p.owed - 1) % 64 →
    0x80 + n / 64 ^ (p.owed - 1) % 64 ≤ p.high →
    encodeChar (Char.ofNat n) = seen ++ digits p.owed n

theorem follows_of_two (b : Nat) (hb : 0xC2 ≤ b) (hb' : b < 0xE0) :
    Pending.Follows { value := b - 0xC0, owed := 1 } [b.toUInt8] := by
  intro n hvalue _ _
  dsimp only at hvalue ⊢
  rw [encodeChar_of_two (by omega) (by omega)]
  have hlead : 0xC0 + n / 64 = b := by omega
  rw [hlead]
  rfl

theorem follows_of_three (b low high : Nat) (hb : 0xE0 ≤ b) (hb' : b < 0xF0)
    (hshort : b = 0xE0 → 0xA0 ≤ low) (hsurrogate : b = 0xED → high < 0xA0) :
    Pending.Follows { value := b - 0xE0, owed := 2, low, high } [b.toUInt8] := by
  intro n hvalue hlow hhigh
  dsimp only at hvalue hlow hhigh ⊢
  simp only [Nat.reducePow, Nat.reduceSub, Nat.pow_one] at hvalue hlow hhigh
  rw [encodeChar_of_three (by omega) (by omega) (by omega)]
  have hlead : 0xE0 + n / 4096 = b := by omega
  rw [hlead]
  rfl

theorem follows_of_four (b low high : Nat) (hb : 0xF0 ≤ b) (hb' : b < 0xF5)
    (hshort : b = 0xF0 → 0x90 ≤ low) (hlast : b = 0xF4 → high < 0x90) :
    Pending.Follows { value := b - 0xF0, owed := 3, low, high } [b.toUInt8] := by
  intro n hvalue hlow hhigh
  dsimp only at hvalue hlow hhigh ⊢
  simp only [Nat.reducePow, Nat.reduceSub] at hvalue hlow hhigh
  rw [encodeChar_of_four (by omega) (by omega)]
  have hlead : 0xF0 + n / 262144 = b := by omega
  rw [hlead]
  rfl

theorem follows_first {b : Nat} {p : Pending} (h : (first b).2 = some p) :
    p.Follows [b.toUInt8] := by
  rw [first] at h
  split at h
  · contradiction
  split at h
  · contradiction
  split at h
  · rename_i hlead htwo
    rw [← Option.some.inj h]
    exact follows_of_two b (by omega) htwo
  split at h
  · rename_i hzero
    rw [← Option.some.inj h, hzero]
    exact follows_of_three 0xE0 _ _ (by decide) (by decide) (by decide) (by decide)
  split at h
  · rename_i hgap
    rw [← Option.some.inj h, hgap]
    exact follows_of_three 0xED _ _ (by decide) (by decide) (by decide) (by decide)
  split at h
  · rename_i hthree
    rw [← Option.some.inj h]
    exact follows_of_three b _ _ (by omega) hthree (by omega) (by omega)
  split at h
  · rename_i hplane
    rw [← Option.some.inj h, hplane]
    exact follows_of_four 0xF0 _ _ (by decide) (by decide) (by decide) (by decide)
  split at h
  · rename_i hfour
    rw [← Option.some.inj h]
    exact follows_of_four b _ _ (by omega) (by omega) (by omega) (by omega)
  split at h
  · rename_i hlast
    rw [← Option.some.inj h, hlast]
    exact follows_of_four 0xF4 _ _ (by decide) (by decide) (by decide) (by decide)
  · contradiction

/-- What a decoder has read since the last complete character, and knows about it. -/
inductive Reads : Option Pending → Bytes → Prop
  | between : Reads none []
  | inside (p : Pending) (seen : Bytes) (more : Nat) (hopen : p.IsOpen more)
      (hfollows : p.Follows seen) : Reads (some p) seen

theorem Pending.Follows.next {p : Pending} {seen : Bytes} {more b : Nat} (h : p.Follows seen)
    (hopen : p.IsOpen more) (hlow : p.low ≤ b) (hhigh : b ≤ p.high) {n : Nat}
    (hn : n / 64 ^ more = p.value * 64 + (b - 0x80)) :
    encodeChar (Char.ofNat n) = seen ++ b.toUInt8 :: digits more n := by
  have hle := hopen.le_low
  have hlt := hopen.high_lt
  have hdigit : 0x80 + n / 64 ^ more % 64 = b := by omega
  have hvalue : n / 64 ^ (more + 1) = p.value := by
    rw [Nat.pow_succ, ← Nat.div_div_eq_div_mul]
    omega
  have hdigits := h n
  rw [hopen.owed_eq, Nat.add_sub_cancel, hdigit] at hdigits
  rw [hdigits hvalue hlow hhigh, digits, hdigit]

theorem eq_of_map_some {out text : Text} (h : out.map some = text.map some) : text = out :=
  ((List.map_inj_right fun _ _ => Option.some.inj).1 h).symm

/-- A byte between characters. -/
theorem reads_first {b : UInt8} {out : Text} (hout : (first b.toNat).1 = out.map some) :
    ∃ left, Reads (first b.toNat).2 left ∧ encode out ++ left = [b] := by
  have hb : b.toNat.toUInt8 = b := UInt8.ofNat_toNat
  generalize hfirst : first b.toNat = found at hout
  have hstarts : Starts b.toNat found := hfirst ▸ starts_first b.toNat
  cases hstarts with
  | character hascii =>
    obtain rfl : out = [Char.ofNat b.toNat] := eq_of_map_some hout
    have hn : (Char.ofNat b.toNat).toNat = b.toNat := toNat_ofNat (.inl (by omega))
    refine ⟨[], .between, ?_⟩
    rw [encode_cons, encodeChar_of_lt (by rwa [hn]), hn, hb]
    rfl
  | malformed => cases out <;> cases hout
  | sequence p more hopen =>
    obtain rfl : out = [] := eq_of_map_some hout
    have hfollows : p.Follows [b.toNat.toUInt8] := follows_first (by rw [hfirst])
    rw [hb] at hfollows
    exact ⟨[b], .inside p [b] more hopen hfollows, rfl⟩

/-- A byte that is read well completes a character, or is one more of those that wait. -/
theorem reads_step {state : Option Pending} {seen : Bytes} {b : UInt8} {out : Text}
    (h : Reads state seen) (hout : (step state b.toNat).1 = out.map some) :
    ∃ left, Reads (step state b.toNat).2 left ∧ encode out ++ left = seen ++ [b] := by
  have hb : b.toNat.toUInt8 = b := UInt8.ofNat_toNat
  cases h with
  | between => exact reads_first hout
  | inside p _ more hopen hfollows =>
    rw [step] at hout ⊢
    split at hout
    · rename_i htakes
      obtain ⟨hlow, hhigh⟩ := htakes
      rw [if_pos ⟨hlow, hhigh⟩]
      have howed := hopen.owed_eq
      cases more with
      | zero =>
        simp only [howed, Nat.zero_add, Nat.le_refl, if_true] at hout ⊢
        obtain rfl : out = [Char.ofNat (p.value * 64 + (b.toNat - 0x80))] := eq_of_map_some hout
        refine ⟨[], .between, ?_⟩
        rw [encode_cons, hfollows.next hopen hlow hhigh (Nat.div_one _), hb]
        simp [digits, encode]
      | succ more =>
        have hmore : ¬ p.owed ≤ 1 := by omega
        simp only [if_neg hmore] at hout ⊢
        obtain rfl : out = [] := eq_of_map_some hout
        refine ⟨seen ++ [b], .inside _ _ more (hopen.next hlow hhigh) fun n hn _ _ => ?_, rfl⟩
        dsimp only at hn ⊢
        rw [howed, Nat.add_sub_cancel] at hn ⊢
        rw [hfollows.next hopen hlow hhigh hn, hb, List.append_assoc]
        rfl
    · cases out <;> cases hout

end Sequences

section Texts

theorem encode_append (front back : Text) : encode (front ++ back) = encode front ++ encode back :=
  List.flatMap_append

/-- Bytes that are read well from the middle of a character on complete the character. -/
theorem encode_of_marks {state : Option Pending} {seen bytes : Bytes} {text : Text}
    (hreads : Reads state seen) (h : marks state bytes = text.map some) :
    encode text = seen ++ bytes := by
  induction bytes generalizing state seen text with
  | nil =>
    cases hreads with
    | between =>
      cases text with
      | nil => rfl
      | cons c text => cases h
    | inside p seen more hopen hfollows => cases text <;> cases h
  | cons b bytes ih =>
    rw [marks_cons] at h
    obtain ⟨out, rest, rfl, hout, hrest⟩ := List.append_eq_map_iff.1 h
    obtain ⟨left, hleft, hbytes⟩ := reads_step hreads hout.symm
    calc encode (out ++ rest)
        = encode out ++ encode rest := encode_append out rest
      _ = encode out ++ (left ++ bytes) := by rw [ih hleft hrest.symm]
      _ = seen ++ b :: bytes := by rw [← List.append_assoc, hbytes, List.append_assoc]; rfl

theorem flatten_map_encode (texts : List Text) :
    (texts.map encode).flatten = encode texts.flatten := by
  induction texts with
  | nil => rfl
  | cons text texts ih =>
    rw [List.map_cons, List.flatten_cons, ih, List.flatten_cons, encode_append]

/-- A byte of ASCII belongs to the character that it is. -/
theorem mem_of_mem_encode {c : Char} (hc : c.toNat < 0x80) {text : Text}
    (h : c.toNat.toUInt8 ∈ encode text) : c ∈ text := by
  obtain ⟨d, hd, hbyte⟩ := List.mem_flatMap.1 h
  have hn : c.toNat.toUInt8.toNat = c.toNat := UInt8.toNat_ofNat_of_lt' (show _ < 0x100 by omega)
  by_cases hascii : d.toNat < 0x80
  · rw [encodeChar_of_lt hascii, List.mem_singleton] at hbyte
    have hvalue : c.toNat = d.toNat := by
      rw [← hn, hbyte, UInt8.toNat_ofNat_of_lt' (show _ < 0x100 by omega)]
    have hcd : c = d := by rw [← Char.ofNat_toNat c, hvalue, Char.ofNat_toNat]
    exact hcd ▸ hd
  · have hwide := le_of_mem_encodeChar (Nat.not_lt.1 hascii) hbyte
    omega

theorem encode_of_decode? {bytes : Bytes} {text : Text} (h : decode? bytes = some text) :
    encode text = bytes :=
  encode_of_marks .between (decode?_eq_some.1 h)

/-- Bytes that are those of a text. -/
def IsText (bytes : Bytes) : Prop := ∃ text, encode text = bytes

theorem isText_of_marks {bytes : Bytes} {text : Text} (h : marks none bytes = text.map some) :
    IsText bytes :=
  ⟨text, encode_of_marks .between h⟩

theorem isSome_decode?_iff {bytes : Bytes} : (decode? bytes).isSome ↔ IsText bytes := by
  constructor
  · intro h
    obtain ⟨text, htext⟩ := Option.isSome_iff_exists.1 h
    exact ⟨text, encode_of_decode? htext⟩
  · rintro ⟨text, rfl⟩
    rw [decode?_encode]
    rfl

theorem decodeLossy_encode (text : Text) : decodeLossy (encode text) = text := by
  rw [decodeLossy, marks_encode, List.map_map]
  exact List.map_id text

/-- Lenient reading loses nothing exactly where there is nothing to be lenient about. -/
theorem encode_decodeLossy_iff {bytes : Bytes} :
    encode (decodeLossy bytes) = bytes ↔ IsText bytes := by
  constructor
  · exact fun h => ⟨_, h⟩
  · rintro ⟨text, rfl⟩
    rw [decodeLossy_encode]

/-- A character is read between what stands before it and what follows. -/
theorem exists_of_marks_encodeChar {state : Option Pending} {front back : Bytes} {c : Char}
    {text : Text} (hstate : IsReached state)
    (h : marks state (front ++ (encodeChar c ++ back)) = text.map some) :
    ∃ before behind : Text, (∀ rest, marks state (front ++ rest) =
      before.map some ++ marks none rest) ∧ marks none back = behind.map some := by
  induction front generalizing state text with
  | nil =>
    obtain rfl : state = none := eq_none_of_marks hstate h
    rw [List.nil_append, marks_encodeChar] at h
    obtain ⟨d, behind, rfl, -, hbehind⟩ := List.map_eq_cons_iff.1 h.symm
    exact ⟨[], behind, fun rest => rfl, hbehind.symm⟩
  | cons b front ih =>
    rw [List.cons_append, marks_cons] at h
    obtain ⟨out, rest, rfl, hout, hrest⟩ := List.append_eq_map_iff.1 h
    obtain ⟨before, behind, hbefore, hbehind⟩ :=
      ih (isReached_step hstate b.toNat) hrest.symm
    refine ⟨out ++ before, behind, fun rest => ?_, hbehind⟩
    rw [List.cons_append, marks_cons, hbefore, ← hout, List.map_append, List.append_assoc]

/-- What stands around a text within a text is a text too. -/
theorem IsText.delete {front back : Bytes} {text : Text}
    (h : IsText (front ++ (encode text ++ back))) : IsText (front ++ back) := by
  induction text with
  | nil => exact h
  | cons c text ih =>
    obtain ⟨whole, hwhole⟩ := h
    rw [encode_cons, List.append_assoc] at hwhole
    obtain ⟨before, behind, hbefore, hbehind⟩ :=
      exists_of_marks_encodeChar isReached_none (hwhole ▸ marks_encode whole)
    have hmarks : marks none (front ++ (encode text ++ back)) = (before ++ behind).map some := by
      rw [hbefore, hbehind, List.map_append]
    exact ih (isText_of_marks hmarks)

end Texts

end RuleGateway.Utf8
