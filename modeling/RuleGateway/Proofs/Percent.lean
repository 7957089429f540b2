import RuleGateway.Percent
import RuleGateway.Proofs.Text.Ascii

/-!
# Escaping and reading escapes

Escaping characters does not change what a text stands for: where it has escapes
already they are left alone, and what is escaped is read as it was. So an escaped
text is read like the text itself (`decodeLoose_encode`), and escaping it again
does nothing (`encode_encode`).
-/

namespace RuleGateway.Percent

/-- The byte that the two characters at the start of a text write. -/
def byteAt? : Text → Option UInt8
  | high :: low :: _ => byte? high low
  | _ => none

section Decode

theorem decodeLoose_of_byteAt? {text : Text} {b : UInt8} (h : byteAt? text = some b) :
    decodeLoose ('%' :: text) = b :: decodeLoose (text.drop 2) := by
  match text with
  | [] | [_] => cases h
  | high :: low :: rest =>
    rw [byteAt?] at h
    simp [decodeLoose, h]

theorem decodeLoose_of_not_byteAt? {text : Text} (h : byteAt? text = none) :
    decodeLoose ('%' :: text) = Utf8.encodeChar '%' ++ decodeLoose text := by
  match text with
  | [] | [_] => rfl
  | high :: low :: rest =>
    rw [byteAt?] at h
    simp [decodeLoose, h]

theorem decodeLoose_cons {c : Char} (h : c ≠ '%') (text : Text) :
    decodeLoose (c :: text) = Utf8.encodeChar c ++ decodeLoose text := by
  rw [decodeLoose]
  · intro high low rest hc _
    exact h hc

theorem byte?_eq_some {high low : Char} {b : UInt8} (h : byte? high low = some b) :
    (Text.hexDigit? high).isSome ∧ (Text.hexDigit? low).isSome := by
  cases hhigh : Text.hexDigit? high <;> cases hlow : Text.hexDigit? low <;>
    simp [byte?, hhigh, hlow] at h ⊢

theorem byteAt?_append_of_some {front : Text} {b : UInt8} (h : byteAt? front = some b)
    (back : Text) : byteAt? (front ++ back) = some b := by
  match front with
  | [] | [_] => cases h
  | _ :: _ :: _ => exact h

/-- A text that starts with no digit adds nothing to an escape before it. -/
theorem byteAt?_append {back : Text} (hback : ∀ c, back.head? = some c → Text.hexDigit? c = none)
    (front : Text) : byteAt? (front ++ back) = byteAt? front := by
  match front, back with
  | _ :: _ :: _, _ => rfl
  | [c], [] => rfl
  | [], [] => rfl
  | [c], d :: back =>
    simp [byteAt?, byte?, hback d rfl]
  | [], [d] => rfl
  | [], d :: e :: back =>
    simp [byteAt?, byte?, hback d rfl]

theorem drop_append_of_byteAt? {front : Text} {b : UInt8} (h : byteAt? front = some b)
    (back : Text) : (front ++ back).drop 2 = front.drop 2 ++ back := by
  match front with
  | [] | [_] => cases h
  | _ :: _ :: _ => rfl

/-- A text is read escape by escape and character by character. -/
@[elab_as_elim]
theorem reading {motive : Text → Prop} (nil : motive [])
    (escaped : ∀ text b, byteAt? text = some b → motive (text.drop 2) → motive ('%' :: text))
    (percent : ∀ text, byteAt? text = none → motive text → motive ('%' :: text))
    (other : ∀ c text, c ≠ '%' → motive text → motive (c :: text)) (text : Text) :
    motive text := by
  induction hn : text.length using Nat.strongRecOn generalizing text with
  | ind n ih =>
    cases text with
    | nil => exact nil
    | cons c text =>
      have hrest : motive text := ih text.length (by simp [← hn]) text rfl
      by_cases hc : c = '%'
      · subst hc
        cases hbyte : byteAt? text with
        | none => exact percent text hbyte hrest
        | some b =>
          refine escaped text b hbyte (ih (text.drop 2).length ?_ _ rfl)
          rw [← hn, List.length_drop, List.length_cons]
          omega
      · exact other c text hc hrest

/-- A text that starts with no digit is read by itself. -/
theorem decodeLoose_append {back : Text}
    (hback : ∀ c, back.head? = some c → Text.hexDigit? c = none) (front : Text) :
    decodeLoose (front ++ back) = decodeLoose front ++ decodeLoose back := by
  induction front using reading with
  | nil => rfl
  | escaped text b hbyte ih =>
    rw [List.cons_append, decodeLoose_of_byteAt? (byteAt?_append_of_some hbyte back),
      drop_append_of_byteAt? hbyte, ih, decodeLoose_of_byteAt? hbyte, List.cons_append]
  | percent text hbyte ih =>
    have hnone : byteAt? (text ++ back) = none := (byteAt?_append hback text).trans hbyte
    rw [List.cons_append, decodeLoose_of_not_byteAt? hnone, ih, decodeLoose_of_not_byteAt? hbyte,
      List.append_assoc]
  | other c text hc ih =>
    rw [List.cons_append, decodeLoose_cons hc, ih, decodeLoose_cons hc, List.append_assoc]

/-- Whether no percent sign of a text starts an escape. -/
def Escapeless (text : Text) : Prop :=
  ∀ front back, text = front ++ '%' :: back → byteAt? back = none

theorem Escapeless.of_infix {text part : Text} (h : Escapeless text) (hpart : part <:+: text) :
    Escapeless part := by
  obtain ⟨before, after, rfl⟩ := hpart
  rintro front back rfl
  have hnone := h (before ++ front) (back ++ after) (by simp)
  cases hbyte : byteAt? back with
  | none => rfl
  | some b =>
    rw [byteAt?_append_of_some hbyte] at hnone
    cases hnone

theorem escapeless_of_not_mem {text : Text} (h : '%' ∉ text) : Escapeless text := by
  rintro front back rfl
  exact absurd (List.mem_append_right front List.mem_cons_self) h

/-- A text without escapes stands for itself. -/
theorem decodeLoose_of_escapeless {text : Text} (h : Escapeless text) :
    decodeLoose text = Utf8.encode text := by
  induction text with
  | nil => rfl
  | cons c text ih =>
    have hrest := ih (h.of_infix (List.suffix_cons c text).isInfix)
    rw [Utf8.encode_cons, ← hrest]
    by_cases hc : c = '%'
    · subst hc
      exact decodeLoose_of_not_byteAt? (h [] text rfl)
    · exact decodeLoose_cons hc text

end Decode

section Encode

/-- Whether a set leaves percent signs and hexadecimal digits alone. -/
def Spares (inSet : Char → Bool) : Prop := ∀ c ∈ '%' :: Text.hexDigits, inSet c = false

variable {inSet : Char → Bool} {c : Char}

/-- Whether a character is escaped. -/
def isEscaped (inSet : Char → Bool) (c : Char) : Bool := 0x80 ≤ c.toNat || inSet c

theorem encode_cons (inSet : Char → Bool) (c : Char) (text : Text) :
    encode inSet (c :: text) =
      (if isEscaped inSet c then escapeChar c else [c]) ++ encode inSet text :=
  List.flatMap_cons

theorem encode_append (inSet : Char → Bool) (front back : Text) :
    encode inSet (front ++ back) = encode inSet front ++ encode inSet back :=
  List.flatMap_append

theorem Spares.not_isEscaped (h : Spares inSet) (hc : c ∈ '%' :: Text.hexDigits) :
    isEscaped inSet c = false := by
  have hascii : ∀ d ∈ '%' :: Text.hexDigits, decide (0x80 ≤ d.toNat) = false :=
    Text.forall_mem (by decide)
  rw [isEscaped, hascii c hc, h c hc, Bool.or_false]

theorem Spares.hexDigit?_of_isEscaped (h : Spares inSet) (hc : isEscaped inSet c) :
    Text.hexDigit? c = none := by
  cases hdigit : Text.hexDigit? c with
  | none => rfl
  | some n =>
    have hmem := Text.mem_hexDigits_of_hexDigit? (Option.isSome_of_eq_some hdigit)
    rw [h.not_isEscaped (List.mem_cons_of_mem _ hmem)] at hc
    cases hc

theorem byteAt?_percent (text : Text) : byteAt? ('%' :: text) = none := by
  have hpercent : Text.hexDigit? '%' = none := by decide
  cases text with
  | nil => rfl
  | cons c text => simp [byteAt?, byte?, hpercent]

/-- An escape is a percent sign with two digits. -/
theorem escape_subset (b : UInt8) : escape b ⊆ '%' :: Text.hexDigits := by
  have hdigit : ∀ n < 16, digit n ∈ Text.hexDigits := by decide
  have hb := b.toNat_lt
  intro c hc
  simp only [escape, List.mem_cons, List.not_mem_nil, or_false] at hc
  rcases hc with rfl | rfl | rfl
  · exact List.mem_cons_self
  · exact List.mem_cons_of_mem _ (hdigit _ (by omega))
  · exact List.mem_cons_of_mem _ (hdigit _ (by omega))

theorem escapeChar_subset (c : Char) : escapeChar c ⊆ '%' :: Text.hexDigits := by
  intro d hd
  obtain ⟨b, -, hb⟩ := List.mem_flatMap.1 hd
  exact escape_subset b hb

theorem exists_escapeChar_eq (c : Char) : ∃ rest, escapeChar c = '%' :: rest := by
  obtain ⟨b, bytes, hencode⟩ := List.exists_cons_of_ne_nil (Utf8.encodeChar_ne_nil c)
  exact ⟨_, by rw [escapeChar, hencode]; rfl⟩

theorem encode_ne_nil {text : Text} (h : text ≠ []) : encode inSet text ≠ [] := by
  obtain ⟨c, rest, rfl⟩ := List.exists_cons_of_ne_nil h
  obtain ⟨escaped, hescape⟩ := exists_escapeChar_eq c
  rw [encode_cons, hescape]
  split <;> simp

/-- A character of an escaped text is left from the text, or part of an escape. -/
theorem mem_encode {text : Text} {d : Char} (h : d ∈ encode inSet text) :
    d ∈ text ∧ isEscaped inSet d = false ∨ d ∈ '%' :: Text.hexDigits := by
  obtain ⟨c, hc, hd⟩ := List.mem_flatMap.1 h
  by_cases hescaped : isEscaped inSet c
  · refine .inr (escapeChar_subset c ?_)
    rwa [← isEscaped, if_pos hescaped] at hd
  · rw [← isEscaped, if_neg hescaped, List.mem_singleton] at hd
    subst hd
    exact .inl ⟨hc, by simpa using hescaped⟩

/-- A text in which nothing is escaped is left alone. -/
theorem encode_eq_self {text : Text} (h : ∀ c ∈ text, isEscaped inSet c = false) :
    encode inSet text = text := by
  induction text with
  | nil => rfl
  | cons c text ih =>
    rw [encode_cons, if_neg (by simp [h c List.mem_cons_self]),
      ih fun d hd => h d (List.mem_cons_of_mem c hd), List.singleton_append]

/-- What is escaped already is not escaped again. -/
theorem encode_encode (h : Spares inSet) (text : Text) :
    encode inSet (encode inSet text) = encode inSet text := by
  refine encode_eq_self fun c hc => ?_
  rcases mem_encode hc with ⟨-, hleft⟩ | hescape
  · exact hleft
  · exact h.not_isEscaped hescape

theorem decodeLoose_escape (b : UInt8) (text : Text) :
    decodeLoose (escape b ++ text) = b :: decodeLoose text := by
  have hdigit : ∀ n < 16, Text.hexDigit? (digit n) = some n := by decide
  have hb := b.toNat_lt
  have hbyte : byteAt? (digit (b.toNat / 16) :: digit (b.toNat % 16) :: text) = some b := by
    have hwhole : b.toNat / 16 * 16 + b.toNat % 16 = b.toNat := Nat.div_add_mod' _ _
    rw [byteAt?, byte?, hdigit _ (by omega), hdigit _ (by omega), Option.bind_eq_bind,
      Option.bind_some, Option.bind_some, hwhole]
    exact congrArg some UInt8.ofNat_toNat
  exact decodeLoose_of_byteAt? hbyte

theorem decodeLoose_escapeChar (c : Char) (text : Text) :
    decodeLoose (escapeChar c ++ text) = Utf8.encodeChar c ++ decodeLoose text := by
  rw [escapeChar]
  induction Utf8.encodeChar c with
  | nil => rfl
  | cons b bytes ih => rw [List.flatMap_cons, List.append_assoc, decodeLoose_escape, ih,
      List.cons_append]

/-- Escaping makes no escape of what was none, and leaves the others alone. -/
theorem byteAt?_encode (h : Spares inSet) (text : Text) :
    byteAt? (encode inSet text) = byteAt? text := by
  have hhead (c : Char) (text : Text) (hc : isEscaped inSet c) :
      byteAt? (encode inSet (c :: text)) = none := by
    obtain ⟨rest, hescape⟩ := exists_escapeChar_eq c
    rw [encode_cons, if_pos hc, hescape, List.cons_append]
    exact byteAt?_percent _
  match text with
  | [] => rfl
  | [c] =>
    by_cases hc : isEscaped inSet c
    · exact hhead c [] hc
    · rw [encode_cons, if_neg hc]
      rfl
  | c :: d :: text =>
    by_cases hc : isEscaped inSet c
    · rw [hhead c (d :: text) hc]
      simp [byteAt?, byte?, h.hexDigit?_of_isEscaped hc]
    · rw [encode_cons, if_neg hc, List.singleton_append, encode_cons]
      by_cases hd : isEscaped inSet d
      · obtain ⟨rest, hescape⟩ := exists_escapeChar_eq d
        have hpercent : Text.hexDigit? '%' = none := by decide
        rw [if_pos hd, hescape]
        simp [byteAt?, byte?, h.hexDigit?_of_isEscaped hd, hpercent]
      · rw [if_neg hd]
        rfl

theorem drop_encode_of_byteAt? (h : Spares inSet) {text : Text} {b : UInt8}
    (hbyte : byteAt? text = some b) :
    (encode inSet text).drop 2 = encode inSet (text.drop 2) := by
  match text with
  | [] | [_] => cases hbyte
  | high :: low :: rest =>
    obtain ⟨hhigh, hlow⟩ := byte?_eq_some hbyte
    have hleft (c : Char) (hc : (Text.hexDigit? c).isSome) : isEscaped inSet c = false :=
      h.not_isEscaped (List.mem_cons_of_mem _ (Text.mem_hexDigits_of_hexDigit? hc))
    simp [encode_cons, hleft high hhigh, hleft low hlow]

/-- An escaped text stands for what the text does. -/
theorem decodeLoose_encode (h : Spares inSet) (text : Text) :
    decodeLoose (encode inSet text) = decodeLoose text := by
  have hpercent (text : Text) : encode inSet ('%' :: text) = '%' :: encode inSet text := by
    rw [encode_cons, h.not_isEscaped List.mem_cons_self]
    rfl
  induction text using reading with
  | nil => rfl
  | escaped text b hbyte ih =>
    rw [hpercent, decodeLoose_of_byteAt? ((byteAt?_encode h text).trans hbyte),
      drop_encode_of_byteAt? h hbyte, ih, decodeLoose_of_byteAt? hbyte]
  | percent text hbyte ih =>
    rw [hpercent, decodeLoose_of_not_byteAt? ((byteAt?_encode h text).trans hbyte), ih,
      decodeLoose_of_not_byteAt? hbyte]
  | other c text hc ih =>
    rw [encode_cons, decodeLoose_cons hc, ← ih]
    split
    · exact decodeLoose_escapeChar c _
    · exact decodeLoose_cons hc _

end Encode

end RuleGateway.Percent
