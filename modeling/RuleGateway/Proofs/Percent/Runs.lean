import RuleGateway.Proofs.Percent

/-!
# Runs in escaped texts

A text can be brought into ASCII by escaping the characters outside ASCII and nothing
else. What is asked of a text character by character then has the same answer as before
if it has one answer for all characters outside ASCII, for percent signs and for digits
(`IsBlind`), so runs, cuts and parts of the text are those of the text before, escaped.
-/

namespace RuleGateway.Percent

/-- The text with its characters outside ASCII escaped. -/
def escapeWide (text : Text) : Text := encode (fun _ => false) text

section Text

variable {c : Char} {text : Text}

theorem escapeWide_nil : escapeWide [] = [] := rfl

theorem escapeWide_cons_of_ascii (h : c.toNat < 0x80) (text : Text) :
    escapeWide (c :: text) = c :: escapeWide text := by
  have hleft : isEscaped (fun _ => false) c = false := by
    rw [isEscaped, Bool.or_false, decide_eq_false_iff_not, Nat.not_le]
    exact h
  rw [escapeWide, encode_cons, hleft]
  rfl

theorem escapeWide_cons_of_wide (h : 0x80 ≤ c.toNat) (text : Text) :
    escapeWide (c :: text) = escapeChar c ++ escapeWide text := by
  have hescaped : isEscaped (fun _ => false) c = true := by
    rw [isEscaped, Bool.or_false, decide_eq_true_eq]
    exact h
  rw [escapeWide, encode_cons, hescaped]
  rfl

theorem escapeWide_append (front back : Text) :
    escapeWide (front ++ back) = escapeWide front ++ escapeWide back :=
  encode_append _ front back

theorem escapeWide_of_ascii (h : ∀ c ∈ text, c.toNat < 0x80) : escapeWide text = text :=
  encode_eq_self fun c hc => by
    rw [isEscaped, Bool.or_false, decide_eq_false_iff_not, Nat.not_le]
    exact h c hc

/-- What is outside ASCII leaves a percent sign. -/
theorem mem_escapeWide_of_wide (hc : 0x80 ≤ c.toNat) (hmem : c ∈ text) : '%' ∈ escapeWide text := by
  obtain ⟨front, back, rfl⟩ := List.append_of_mem hmem
  obtain ⟨escaped, hescape⟩ := exists_escapeChar_eq c
  rw [escapeWide_append, escapeWide_cons_of_wide hc, hescape]
  simp

/-- Where nothing is to be escaped in ASCII, only the other characters are escaped. -/
theorem encode_eq_escapeWide {inSet : Char → Bool} (h : ∀ c ∈ text, inSet c = false) :
    encode inSet text = escapeWide text := by
  induction text with
  | nil => rfl
  | cons c text ih =>
    rw [escapeWide, encode_cons, encode_cons, isEscaped, isEscaped, h c List.mem_cons_self,
      ih fun d hd => h d (List.mem_cons_of_mem c hd)]
    rfl

theorem isAscii_encode (inSet : Char → Bool) (text : Text) : Text.isAscii (encode inSet text) := by
  have hall : ∀ d ∈ '%' :: Text.hexDigits, d.toNat < 0x80 := Text.forall_mem (by decide)
  rw [Text.isAscii, List.all_eq_true]
  intro d hd
  rw [decide_eq_true_eq]
  rcases mem_encode hd with ⟨-, hleft⟩ | hescape
  · rw [isEscaped, Bool.or_eq_false_iff, decide_eq_false_iff_not, Nat.not_le] at hleft
    exact hleft.1
  · exact hall d hescape

/-- Escaping more comes to the same as escaping at once. -/
theorem encode_escapeWide {inSet : Char → Bool} (h : Spares inSet) (text : Text) :
    encode inSet (escapeWide text) = encode inSet text := by
  induction text with
  | nil => rfl
  | cons c text ih =>
    by_cases hc : c.toNat < 0x80
    · rw [escapeWide_cons_of_ascii hc, encode_cons, encode_cons, ih]
    · have hescaped : isEscaped inSet c = true := by
        rw [isEscaped, decide_eq_true (Nat.le_of_not_lt hc), Bool.true_or]
      rw [escapeWide_cons_of_wide (Nat.le_of_not_lt hc), encode_append, encode_cons, hescaped,
        if_pos rfl, ih, encode_eq_self fun d hd => h.not_isEscaped (escapeChar_subset c hd)]

theorem decodeLoose_escapeWide (text : Text) : decodeLoose (escapeWide text) = decodeLoose text :=
  decodeLoose_encode (fun _ _ => rfl) text

theorem escapeWide_eq_nil : escapeWide text = [] ↔ text = [] := by
  constructor
  · exact fun h => Decidable.byContradiction fun hne => encode_ne_nil hne h
  · rintro rfl
    rfl

theorem isEmpty_escapeWide (text : Text) : (escapeWide text).isEmpty = text.isEmpty := by
  rw [Bool.eq_iff_iff, List.isEmpty_iff, List.isEmpty_iff, escapeWide_eq_nil]

end Text

section Blind

variable {kind : Char → Bool} {c : Char}

/-- Whether a kind of characters takes a character outside ASCII as it takes its escape. -/
structure IsBlind (kind : Char → Bool) : Prop where
  wide : ∀ c : Char, 0x80 ≤ c.toNat → kind c = kind '%'
  digits : ∀ d ∈ Text.hexDigits, kind '%' → kind d

/-- A kind that is decided by characters which occur in no escape. -/
theorem isBlind_of_seen (seen : Text)
    (hseen : ∀ d ∈ seen, d.toNat < 0x80 ∧ d ∉ '%' :: Text.hexDigits)
    (h : ∀ c, c ∉ seen → kind c = kind '%') : IsBlind kind where
  wide c hc := h c fun hmem => absurd (hseen c hmem).1 (Nat.not_lt.2 hc)
  digits d hd hpercent :=
    (h d fun hmem => (hseen d hmem).2 (List.mem_cons_of_mem _ hd)).trans hpercent

/-- A kind that has only characters of ASCII, without the percent sign. -/
theorem isBlind_of_ascii (h : ∀ c, kind c → c.toNat < 0x80 ∧ c ≠ '%') : IsBlind kind := by
  have hpercent : kind '%' = false := by
    rw [Bool.eq_false_iff]
    exact fun hkind => (h '%' hkind).2 rfl
  constructor
  case wide =>
    intro c hc
    rw [hpercent, Bool.eq_false_iff]
    exact fun hkind => absurd (h c hkind).1 (Nat.not_lt.2 hc)
  case digits =>
    intro d _ hkind
    rw [hpercent] at hkind
    cases hkind

theorem IsBlind.or {other : Char → Bool} (h : IsBlind kind) (hother : IsBlind other) :
    IsBlind fun c => kind c || other c where
  wide c hc := by rw [h.wide c hc, hother.wide c hc]
  digits d hd hpercent := by
    rw [Bool.or_eq_true] at hpercent ⊢
    exact hpercent.imp (h.digits d hd) (hother.digits d hd)

theorem IsBlind.of_mem_escapeChar (h : IsBlind kind) (hc : 0x80 ≤ c.toNat) (hkind : kind c) :
    ∀ d ∈ escapeChar c, kind d := by
  rw [h.wide c hc] at hkind
  intro d hd
  rcases List.mem_cons.1 (escapeChar_subset c hd) with rfl | hdigit
  · exact hkind
  · exact h.digits d hdigit hkind

theorem IsBlind.stops_escapeChar (h : IsBlind kind) (hc : 0x80 ≤ c.toNat) (hkind : kind c = false)
    (text : Text) : Text.Stops kind (escapeChar c ++ text) := by
  obtain ⟨rest, hescape⟩ := exists_escapeChar_eq c
  rw [hescape]
  exact Text.stops_cons ((h.wide c hc).symm.trans hkind) _

theorem takeWhile_escapeWide (h : IsBlind kind) (text : Text) :
    (escapeWide text).takeWhile kind = escapeWide (text.takeWhile kind) := by
  induction text with
  | nil => rfl
  | cons c text ih =>
    by_cases hc : c.toNat < 0x80
    · rw [escapeWide_cons_of_ascii hc, List.takeWhile_cons, List.takeWhile_cons, ih]
      split
      · rw [escapeWide_cons_of_ascii hc]
      · rfl
    · have hwide := Nat.le_of_not_lt hc
      rw [escapeWide_cons_of_wide hwide, List.takeWhile_cons]
      split
      · rename_i hkind
        rw [List.takeWhile_append_of_pos (h.of_mem_escapeChar hwide hkind), ih,
          escapeWide_cons_of_wide hwide]
      · rename_i hkind
        rw [Text.takeWhile_of_stops
          (h.stops_escapeChar hwide (Bool.eq_false_iff.2 hkind) _)]
        rfl

theorem dropWhile_escapeWide (h : IsBlind kind) (text : Text) :
    (escapeWide text).dropWhile kind = escapeWide (text.dropWhile kind) := by
  have hwhole : (escapeWide text).takeWhile kind ++ (escapeWide text).dropWhile kind =
      escapeWide (text.takeWhile kind) ++ escapeWide (text.dropWhile kind) := by
    rw [← escapeWide_append, List.takeWhile_append_dropWhile, List.takeWhile_append_dropWhile]
  rw [takeWhile_escapeWide h] at hwhole
  exact List.append_cancel_left hwhole

theorem all_escapeWide (h : IsBlind kind) (text : Text) :
    (escapeWide text).all kind = text.all kind := by
  induction text with
  | nil => rfl
  | cons c text ih =>
    by_cases hc : c.toNat < 0x80
    · rw [escapeWide_cons_of_ascii hc, List.all_cons, List.all_cons, ih]
    · have hwide := Nat.le_of_not_lt hc
      rw [escapeWide_cons_of_wide hwide, List.all_append, List.all_cons, ih]
      congr 1
      cases hkind : kind c with
      | true => exact List.all_eq_true.2 (h.of_mem_escapeChar hwide hkind)
      | false =>
        obtain ⟨rest, hescape⟩ := exists_escapeChar_eq c
        rw [hescape, List.all_cons, ← h.wide c hwide, hkind, Bool.false_and]

/-- The first character is not looked at unless it is one of ASCII. -/
theorem head?_escapeWide_any (h : IsBlind kind) (text : Text) :
    ((escapeWide text).head?.map kind) = text.head?.map kind := by
  cases text with
  | nil => rfl
  | cons c text =>
    by_cases hc : c.toNat < 0x80
    · rw [escapeWide_cons_of_ascii hc]
      rfl
    · obtain ⟨rest, hescape⟩ := exists_escapeChar_eq c
      rw [escapeWide_cons_of_wide (Nat.le_of_not_lt hc), hescape]
      exact congrArg some (h.wide c (Nat.le_of_not_lt hc)).symm

theorem filter_escapeWide (h : IsBlind kind) (hpercent : kind '%') (text : Text) :
    (escapeWide text).filter kind = escapeWide (text.filter kind) := by
  induction text with
  | nil => rfl
  | cons c text ih =>
    by_cases hc : c.toNat < 0x80
    · rw [escapeWide_cons_of_ascii hc, List.filter_cons, List.filter_cons, ih]
      split
      · rw [escapeWide_cons_of_ascii hc]
      · rfl
    · have hwide := Nat.le_of_not_lt hc
      have hkind : kind c := (h.wide c hwide).trans hpercent
      rw [escapeWide_cons_of_wide hwide, List.filter_append,
        List.filter_eq_self.2 (h.of_mem_escapeChar hwide hkind), ih, List.filter_cons_of_pos hkind,
        escapeWide_cons_of_wide hwide]

end Blind

section Parts

variable {sep : Char} {text : Text}

theorem not_mem_escapeWide (hsep : sep ∉ '%' :: Text.hexDigits) (h : sep ∉ text) :
    sep ∉ escapeWide text := fun hmem =>
  (mem_encode hmem).elim (fun hleft => h hleft.1) hsep

/-- The parts of an escaped text are those of the text, escaped. -/
theorem split_escapeWide (hascii : sep.toNat < 0x80) (hsep : sep ∉ '%' :: Text.hexDigits)
    (text : Text) : Text.split sep (escapeWide text) = (Text.split sep text).map escapeWide :=
  Text.split_map_of_append (fun front back => by
    rw [escapeWide_append, escapeWide_cons_of_ascii hascii]) (fun _ => not_mem_escapeWide hsep) text

/-- Characters that occur in no escape may be exchanged before or after escaping. -/
theorem map_escapeWide {f : Char → Char} (hwide : ∀ c : Char, 0x80 ≤ c.toNat → f c = c)
    (hascii : ∀ c : Char, c.toNat < 0x80 → (f c).toNat < 0x80)
    (hescape : ∀ d ∈ '%' :: Text.hexDigits, f d = d) (text : Text) :
    (escapeWide text).map f = escapeWide (text.map f) := by
  induction text with
  | nil => rfl
  | cons c text ih =>
    by_cases hc : c.toNat < 0x80
    · rw [escapeWide_cons_of_ascii hc, List.map_cons, List.map_cons,
        escapeWide_cons_of_ascii (hascii c hc), ih]
    · have hlarge := Nat.le_of_not_lt hc
      have hkept : (escapeChar c).map f = escapeChar c :=
        (List.map_congr_left fun d hd => hescape d (escapeChar_subset c hd)).trans (List.map_id' _)
      rw [escapeWide_cons_of_wide hlarge, List.map_append, hkept, List.map_cons, hwide c hlarge,
        escapeWide_cons_of_wide hlarge, ih]

theorem getLast?_escapeWide_eq (hsep : sep ∉ '%' :: Text.hexDigits) (hascii : sep.toNat < 0x80) :
    (escapeWide text).getLast? = some sep ↔ text.getLast? = some sep := by
  rcases List.eq_nil_or_concat text with rfl | ⟨front, c, rfl⟩
  · exact Iff.rfl
  · rw [List.concat_eq_append, escapeWide_append]
    by_cases hc : c.toNat < 0x80
    · rw [escapeWide_cons_of_ascii hc, escapeWide_nil, List.getLast?_concat, List.getLast?_concat]
    · have hlarge := Nat.le_of_not_lt hc
      rw [escapeWide_cons_of_wide hlarge, escapeWide_nil, List.append_nil, List.getLast?_concat]
      constructor
      · intro h
        have hmem : sep ∈ escapeChar c := by
          obtain ⟨rest, hescape⟩ := exists_escapeChar_eq c
          rw [List.getLast?_append, hescape, List.getLast?_cons, Option.some_or,
            ← List.getLast?_cons, ← hescape] at h
          exact List.mem_of_getLast? h
        exact absurd (escapeChar_subset c hmem) hsep
      · intro h
        rw [← Option.some_inj.1 h] at hascii
        exact absurd hascii hc

end Parts

end RuleGateway.Percent
