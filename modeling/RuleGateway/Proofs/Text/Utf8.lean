import RuleGateway.Proofs.Text.Ascii

/-!
# Reading UTF-8

The bytes of a text are read as the text (`decode?_encode`). A byte of ASCII ends
what stands before it, so that bytes before and after one are read by themselves
(`marks_append_ascii`), and every character is led by a byte that no sequence goes
on with. From malformed bytes too, a character of ASCII is read only where its byte
stands (`mem_of_mem_marks`).
-/

namespace RuleGateway.Utf8

section Sequences

variable {state : Option Pending} {p : Pending} {c : Char}

/-- How many values go on from a value by some more bytes. -/
def reach : Nat → Nat
  | 0 => 1
  | more + 1 => 64 * reach more

/-- Every value that goes on from a value by some more bytes is that of a character
outside ASCII. -/
def GoesWide (more value : Nat) : Prop :=
  0x80 ≤ value * reach more ∧
    ((value + 1) * reach more ≤ 0xD800 ∨
      0xE000 ≤ value * reach more ∧ (value + 1) * reach more ≤ 0x110000)

theorem GoesWide.next {more value d : Nat} (h : GoesWide (more + 1) value) (hd : d < 64) :
    GoesWide more (value * 64 + d) := by
  have hbelow : value * reach (more + 1) ≤ (value * 64 + d) * reach more := by
    rw [reach, ← Nat.mul_assoc]
    exact Nat.mul_le_mul_right _ (Nat.le_add_right _ _)
  have habove : (value * 64 + d + 1) * reach more ≤ (value + 1) * reach (more + 1) := by
    rw [reach, ← Nat.mul_assoc]
    exact Nat.mul_le_mul_right _ (by omega)
  unfold GoesWide at h ⊢
  omega

theorem toNat_ofNat {n : Nat} (h : n.isValidChar) : (Char.ofNat n).toNat = n := by
  rw [Char.ofNat, dif_pos h]
  rfl

theorem GoesWide.le_toNat {value : Nat} (h : GoesWide 0 value) :
    0x80 ≤ (Char.ofNat value).toNat := by
  simp only [GoesWide, reach, Nat.mul_one] at h
  have hvalid : value.isValidChar := by
    rcases h.2 with hlow | ⟨hlow, hhigh⟩
    · exact .inl hlow
    · exact .inr ⟨Nat.lt_of_lt_of_le (by decide) hlow, hhigh⟩
  rw [toNat_ofNat hvalid]
  exact h.1

/-- A sequence that waits for one byte and some more: none of them is of ASCII or leads
a character, and together they make one outside ASCII. -/
structure Pending.IsOpen (p : Pending) (more : Nat) : Prop where
  owed_eq : p.owed = more + 1
  le_low : 0x80 ≤ p.low
  high_lt : p.high < 0xC0
  wide : ∀ n, p.low ≤ n → n ≤ p.high → GoesWide more (p.value * 64 + (n - 0x80))

theorem Pending.IsOpen.next {more n : Nat} (h : p.IsOpen (more + 1)) (hlow : p.low ≤ n)
    (hhigh : n ≤ p.high) :
    Pending.IsOpen { value := p.value * 64 + (n - 0x80), owed := p.owed - 1 } more where
  owed_eq := congrArg (· - 1) h.owed_eq
  le_low := Nat.le_refl 0x80
  high_lt := Nat.lt_succ_self 0xBF
  wide d _ hd := by
    have hbound : (0xBF : Nat) - 0x80 < 64 := by decide
    exact (h.wide n hlow hhigh).next (Nat.lt_of_le_of_lt (Nat.sub_le_sub_right hd 0x80) hbound)

/-- A state that a decoder gets to. -/
def IsReached (state : Option Pending) : Prop := ∀ p, state = some p → ∃ more, p.IsOpen more

theorem isReached_none : IsReached none := fun p h => by cases h

/-- What a decoder makes of a byte between sequences. -/
inductive Starts (n : Nat) : Marks × Option Pending → Prop
  | character (hascii : n < 0x80) : Starts n ([some (Char.ofNat n)], none)
  | malformed : Starts n ([none], none)
  | sequence (p : Pending) (more : Nat) (hopen : p.IsOpen more) : Starts n ([], some p)

theorem starts_first (n : Nat) : Starts n (first n) := by
  have hopen (more value low high : Nat) (hlow : 0x80 ≤ low) (hhigh : high < 0xC0)
      (hwide : ∀ d, low ≤ d → d ≤ high → GoesWide more (value * 64 + (d - 0x80))) :
      Starts n ([], some { value, owed := more + 1, low, high }) :=
    .sequence _ more ⟨rfl, hlow, hhigh, hwide⟩
  rw [first]
  refine iteInduction .character fun hascii => iteInduction (fun _ => .malformed) fun hlead =>
    iteInduction (fun htwo => hopen 0 _ _ _ (by decide) (by decide) ?_) fun htwo =>
    iteInduction (fun hzero => hopen 1 _ _ _ (by decide) (by decide) ?_) fun hzero =>
    iteInduction (fun hgap => hopen 1 _ _ _ (by decide) (by decide) ?_) fun hgap =>
    iteInduction (fun hthree => hopen 1 _ _ _ (by decide) (by decide) ?_) fun hthree =>
    iteInduction (fun hplane => hopen 2 _ _ _ (by decide) (by decide) ?_) fun hplane =>
    iteInduction (fun hfour => hopen 2 _ _ _ (by decide) (by decide) ?_) fun hfour =>
    iteInduction (fun hlast => hopen 2 _ _ _ (by decide) (by decide) ?_) fun _ => .malformed
  all_goals
    intro d hlow hhigh
    simp only [GoesWide, reach]
    omega

theorem isReached_first (n : Nat) : IsReached (first n).2 := by
  intro p hp
  generalize hfirst : first n = found at hp
  have hstarts : Starts n found := hfirst ▸ starts_first n
  cases hstarts with
  | character hascii => cases hp
  | malformed => cases hp
  | sequence q more hopen =>
    cases hp
    exact ⟨more, hopen⟩

theorem isReached_step (h : IsReached state) (n : Nat) :
    IsReached (step state n).2 := by
  cases state with
  | none => exact isReached_first n
  | some p =>
    obtain ⟨more, hopen⟩ := h p rfl
    rw [step]
    split
    · rename_i htakes
      intro q hq
      dsimp only at hq
      split at hq
      · cases hq
      · rename_i hmore
        have hmid := Option.some.inj hq
        subst hmid
        cases more with
        | zero => exact absurd (Nat.le_of_eq hopen.owed_eq) hmore
        | succ more => exact ⟨more, hopen.next htakes.1 htakes.2⟩
    · exact isReached_first n

/-- A character of ASCII is read from its own byte. -/
theorem eq_ofNat_of_mem_step (h : IsReached state) {n : Nat} (hc : c.toNat < 0x80)
    (hmark : some c ∈ (step state n).1) : n < 0x80 ∧ c = Char.ofNat n := by
  have hfirst (hmark : some c ∈ (first n).1) : n < 0x80 ∧ c = Char.ofNat n := by
    generalize hfirst : first n = found at hmark
    have hstarts : Starts n found := hfirst ▸ starts_first n
    cases hstarts with
    | character hascii => exact ⟨hascii, Option.some.inj (List.mem_singleton.1 hmark)⟩
    | malformed => cases List.mem_singleton.1 hmark
    | sequence q more hopen => cases hmark
  cases state with
  | none => exact hfirst hmark
  | some p =>
    obtain ⟨more, hopen⟩ := h p rfl
    rw [step] at hmark
    split at hmark
    · rename_i htakes
      have hvalue := hopen.wide n htakes.1 htakes.2
      dsimp only at hmark
      split at hmark
      · rename_i hlast
        have hzero : more = 0 := by
          have := hopen.owed_eq
          omega
        subst hzero
        rw [Option.some.inj (List.mem_singleton.1 hmark)] at hc
        exact absurd hc (Nat.not_lt.2 hvalue.le_toNat)
      · cases hmark
    · exact hfirst (List.mem_of_ne_of_mem (Option.some_ne_none c) hmark)

/-- A byte that no sequence goes on with breaks the one before it off. -/
theorem step_of_break (h : IsReached (some p)) {n : Nat} (hn : n < 0x80 ∨ 0xC0 ≤ n) :
    step (some p) n = (none :: (first n).1, (first n).2) := by
  obtain ⟨more, hopen⟩ := h p rfl
  have hlow := hopen.le_low
  have hhigh := hopen.high_lt
  have hout : ¬ (p.low ≤ n ∧ n ≤ p.high) := by omega
  rw [step, if_neg hout]

end Sequences

section Marks

variable {state : Option Pending} {b : UInt8} {c : Char} {rest : Bytes}

theorem marks_cons (state : Option Pending) (b : UInt8) (rest : Bytes) :
    marks state (b :: rest) =
      (step state b.toNat).1 ++ marks (step state b.toNat).2 rest := by
  cases state <;> rfl

/-- A byte of ASCII is read by itself. -/
theorem marks_append_ascii (hstate : IsReached state) (hb : b.toNat < 0x80) (bytes rest : Bytes) :
    marks state (bytes ++ b :: rest) =
      marks state bytes ++ some (Char.ofNat b.toNat) :: marks none rest := by
  have hfirst : first b.toNat = ([some (Char.ofNat b.toNat)], none) := by
    rw [first, if_pos hb]
  induction bytes generalizing state with
  | nil =>
    rw [List.nil_append, marks_cons]
    cases state with
    | none =>
      rw [step, hfirst]
      rfl
    | some p =>
      rw [step_of_break hstate (.inl hb), hfirst]
      rfl
  | cons d bytes ih =>
    rw [List.cons_append, marks_cons, ih (isReached_step hstate d.toNat), marks_cons,
      List.append_assoc]

/-- A character of ASCII is read from nothing but its own byte. -/
theorem mem_of_mem_marks (hc : c.toNat < 0x80) (hstate : IsReached state) {bytes : Bytes}
    (h : some c ∈ marks state bytes) : c.toNat.toUInt8 ∈ bytes := by
  induction bytes generalizing state with
  | nil =>
    cases state with
    | none => cases h
    | some p => simp [marks] at h
  | cons b rest ih =>
    rw [marks_cons] at h
    rcases List.mem_append.1 h with hout | hrest
    · obtain ⟨hb, rfl⟩ := eq_ofNat_of_mem_step hstate hc hout
      have hself : (Char.ofNat b.toNat).toNat.toUInt8 = b := by
        rw [toNat_ofNat (.inl (Nat.lt_trans hb (by decide)))]
        exact UInt8.ofNat_toNat
      rw [hself]
      exact List.mem_cons_self
    · exact List.mem_cons_of_mem b (ih (isReached_step hstate b.toNat) hrest)

/-- At most one character is complete with a byte. -/
theorem length_le_of_step {n : Nat} {text : Text} (h : (step state n).1 = text.map some) :
    text.length ≤ 1 := by
  have hfirst : (first n).1.length ≤ 1 := by
    generalize hfirst : first n = found
    have hstarts : Starts n found := hfirst ▸ starts_first n
    cases hstarts <;> simp
  have hlength : text.length = (step state n).1.length := by rw [h, List.length_map]
  rw [hlength]
  cases state with
  | none => exact hfirst
  | some p =>
    rw [step] at h ⊢
    split at h
    · rename_i htakes
      rw [if_pos htakes]
      dsimp only
      split <;> simp
    · cases text <;> cases h

end Marks

section Characters

/-- A byte that goes on with a sequence and is not its last. -/
theorem marks_next {p : Pending} {owed n : Nat} (hlow : p.low ≤ 0x80 + n % 64)
    (hhigh : 0x80 + n % 64 ≤ p.high) (howed : p.owed = owed + 2) (rest : Bytes) :
    marks (some p) ((0x80 + n % 64).toUInt8 :: rest) =
      marks (some { value := p.value * 64 + n % 64, owed := owed + 1 }) rest := by
  rw [marks_cons, step, UInt8.toNat_ofNat_of_lt' (show _ < 0x100 by omega), if_pos ⟨hlow, hhigh⟩, howed]
  dsimp only
  rw [if_neg (by omega), List.nil_append, Nat.add_sub_cancel_left]
  rfl

/-- The last byte of a sequence. -/
theorem marks_last (value n : Nat) (rest : Bytes) :
    marks (some { value, owed := 1 }) ((0x80 + n % 64).toUInt8 :: rest) =
      some (Char.ofNat (value * 64 + n % 64)) :: marks none rest := by
  have htakes : 0x80 ≤ 0x80 + n % 64 ∧ 0x80 + n % 64 ≤ 0xBF := by omega
  rw [marks_cons, step, UInt8.toNat_ofNat_of_lt' (show _ < 0x100 by omega), if_pos htakes, Nat.add_sub_cancel_left]
  rfl

/-- A first byte with the value opens a sequence that takes the byte after it. -/
structure Opens (lead value owed next : Nat) (p : Pending) : Prop where
  first_eq : first lead = ([], some p)
  value_eq : p.value = value
  owed_eq : p.owed = owed + 2
  low_le : p.low ≤ next
  le_high : next ≤ p.high

/-- The first two bytes of a longer sequence. -/
theorem Opens.marks_eq {lead value owed n : Nat} {p : Pending}
    (h : Opens lead value owed (0x80 + n % 64) p) (hlead : lead < 0x100) (rest : Bytes) :
    marks none (lead.toUInt8 :: (0x80 + n % 64).toUInt8 :: rest) =
      marks (some { value := value * 64 + n % 64, owed := owed + 1 }) rest := by
  rw [marks_cons, step, UInt8.toNat_ofNat_of_lt' hlead, h.first_eq, List.nil_append,
    marks_next h.low_le h.le_high h.owed_eq, h.value_eq]

section Lead

variable {n : Nat}

theorem first_of_two (hlow : 0x80 ≤ n) (hhigh : n < 0x800) :
    first (0xC0 + n / 64) = ([], some { value := n / 64, owed := 1 }) := by
  rw [first, if_neg (by omega), if_neg (by omega), if_pos (by omega), Nat.add_sub_cancel_left]

/-- The bounds on the second of three bytes keep out shorter forms and surrogates,
and let every character in. -/
theorem exists_opens_three (hlow : 0x800 ≤ n) (hhigh : n < 0x10000)
    (hvalid : n < 0xD800 ∨ 0xDFFF < n) :
    ∃ p, Opens (0xE0 + n / 4096) (n / 4096) 0 (0x80 + n / 64 % 64) p := by
  by_cases hshort : n / 4096 = 0
  · refine ⟨{ value := 0, owed := 2, low := 0xA0 }, ?_, hshort.symm, rfl, ?_, ?_⟩
    · rw [hshort]
      rfl
    all_goals
      dsimp only
      omega
  · by_cases hsurrogate : n / 4096 = 13
    · refine ⟨{ value := 0xD, owed := 2, high := 0x9F }, ?_, hsurrogate.symm, rfl, ?_, ?_⟩
      · rw [hsurrogate]
        rfl
      all_goals
        dsimp only
        omega
    · refine ⟨{ value := n / 4096, owed := 2 }, ?_, rfl, rfl, ?_, ?_⟩
      · rw [first, if_neg (by omega), if_neg (by omega), if_neg (by omega), if_neg (by omega),
          if_neg (by omega), if_pos (by omega), Nat.add_sub_cancel_left]
      all_goals
        dsimp only
        omega

/-- The bounds on the second of four bytes keep out shorter forms and what comes
after the last character, and let every character in. -/
theorem exists_opens_four (hlow : 0x10000 ≤ n) (hhigh : n < 0x110000) :
    ∃ p, Opens (0xF0 + n / 262144) (n / 262144) 1 (0x80 + n / 4096 % 64) p := by
  by_cases hshort : n / 262144 = 0
  · refine ⟨{ value := 0, owed := 3, low := 0x90 }, ?_, hshort.symm, rfl, ?_, ?_⟩
    · rw [hshort]
      rfl
    all_goals
      dsimp only
      omega
  · by_cases hfinal : n / 262144 = 4
    · refine ⟨{ value := 4, owed := 3, high := 0x8F }, ?_, hfinal.symm, rfl, ?_, ?_⟩
      · rw [hfinal]
        rfl
      all_goals
        dsimp only
        omega
    · refine ⟨{ value := n / 262144, owed := 3 }, ?_, rfl, rfl, ?_, ?_⟩
      · rw [first, if_neg (by omega), if_neg (by omega), if_neg (by omega), if_neg (by omega),
          if_neg (by omega), if_neg (by omega), if_neg (by omega), if_pos (by omega),
          Nat.add_sub_cancel_left]
      all_goals
        dsimp only
        omega

end Lead

/-- The bytes of a character are read as the character. -/
theorem marks_encodeChar (c : Char) (rest : Bytes) :
    marks none (encodeChar c ++ rest) = some c :: marks none rest := by
  have hmax := toNat_lt c
  have hvalid : c.toNat < 0xD800 ∨ 0xDFFF < c.toNat := c.valid.imp id And.left
  have hchar (n : Nat) (h : n = c.toNat) : Char.ofNat n = c := by rw [h, Char.ofNat_toNat]
  by_cases hone : c.toNat < 0x80
  · rw [encodeChar_of_lt hone, List.singleton_append, marks_cons, step, UInt8.toNat_ofNat_of_lt' (show _ < 0x100 by omega),
      first, if_pos hone, List.singleton_append, hchar _ rfl]
  by_cases htwo : c.toNat < 0x800
  · rw [encodeChar, if_neg hone, if_pos htwo, List.cons_append, List.singleton_append, marks_cons,
      step, UInt8.toNat_ofNat_of_lt' (show _ < 0x100 by omega), first_of_two (Nat.not_lt.1 hone) htwo, List.nil_append,
      marks_last, hchar _ (by omega)]
  by_cases hthree : c.toNat < 0x10000
  · obtain ⟨p, hopens⟩ := exists_opens_three (Nat.not_lt.1 htwo) hthree hvalid
    rw [encodeChar, if_neg hone, if_neg htwo, if_pos hthree, List.cons_append, List.cons_append,
      List.singleton_append, hopens.marks_eq (by omega), marks_last, hchar _ (by omega)]
  · obtain ⟨p, hopens⟩ := exists_opens_four (Nat.not_lt.1 hthree) hmax
    rw [encodeChar, if_neg hone, if_neg htwo, if_neg hthree, List.cons_append, List.cons_append,
      List.cons_append, List.singleton_append, hopens.marks_eq (by omega),
      marks_next (p := { value := c.toNat / 262144 * 64 + c.toNat / 4096 % 64, owed := 2 })
        (Nat.le_add_right _ _) (by dsimp only; omega) rfl, marks_last, hchar _ (by dsimp only; omega)]

/-- The first byte of a character goes on with no sequence. -/
theorem exists_encodeChar_eq (c : Char) :
    ∃ b more, encodeChar c = b :: more ∧ (b.toNat < 0x80 ∨ 0xC0 ≤ b.toNat) := by
  have hmax := toNat_lt c
  rw [encodeChar]
  split
  · refine ⟨_, _, rfl, .inl ?_⟩
    rwa [UInt8.toNat_ofNat_of_lt' (show _ < 0x100 by omega)]
  split
  · refine ⟨_, _, rfl, .inr ?_⟩
    rw [UInt8.toNat_ofNat_of_lt' (show _ < 0x100 by omega)]
    exact Nat.le_add_right _ _
  split
  all_goals
    refine ⟨_, _, rfl, .inr ?_⟩
    rw [UInt8.toNat_ofNat_of_lt' (show _ < 0x100 by omega)]
    omega

/-- A character is read well only between sequences. -/
theorem eq_none_of_marks {state : Option Pending} {c : Char} {rest : Bytes} {text : Text}
    (hstate : IsReached state) (h : marks state (encodeChar c ++ rest) = text.map some) :
    state = none := by
  cases state with
  | none => rfl
  | some p =>
    obtain ⟨b, more, hbytes, hb⟩ := exists_encodeChar_eq c
    rw [hbytes, List.cons_append, marks_cons, step_of_break hstate hb] at h
    cases text <;> cases h

end Characters

section Texts

theorem mapM_id_eq_some {marks : Marks} {text : Text} :
    marks.mapM id = some text ↔ marks = text.map some := by
  induction marks generalizing text with
  | nil => cases text <;> simp
  | cons mark marks ih =>
    rw [List.mapM_cons]
    cases mark with
    | none => cases text <;> simp
    | some c =>
      cases text with
      | nil => cases marks.mapM id <;> simp
      | cons d text =>
        rw [List.map_cons, List.cons.injEq, ← ih]
        cases marks.mapM id <;> simp

theorem decode?_eq_some {bytes : Bytes} {text : Text} :
    decode? bytes = some text ↔ marks none bytes = text.map some :=
  mapM_id_eq_some

/-- The bytes of a text are read as the text. -/
theorem marks_encode (text : Text) : marks none (encode text) = text.map some := by
  induction text with
  | nil => rfl
  | cons c text ih => rw [encode_cons, marks_encodeChar, ih, List.map_cons]

theorem decode?_encode (text : Text) : decode? (encode text) = some text :=
  decode?_eq_some.2 (marks_encode text)

theorem encode_injective {a b : Text} (h : encode a = encode b) : a = b := by
  have hdecode := congrArg decode? h
  rwa [decode?_encode, decode?_encode, Option.some_inj] at hdecode

/-- Bytes with the bytes of a text behind a character of ASCII are read well if the
bytes before are. -/
theorem decode?_append_encode {c : Char} (hc : c.toNat < 0x80) (bytes : Bytes) (text : Text) :
    decode? (bytes ++ encode (c :: text)) = (decode? bytes).map (· ++ c :: text) := by
  have hbyte : c.toNat.toUInt8.toNat = c.toNat := UInt8.toNat_ofNat_of_lt' (show _ < 0x100 by omega)
  have hmarks : marks none (bytes ++ encode (c :: text)) =
      marks none bytes ++ (c :: text).map some := by
    rw [encode_cons, encodeChar_of_lt hc, List.singleton_append,
      marks_append_ascii isReached_none (by rwa [hbyte]), hbyte, Char.ofNat_toNat, marks_encode,
      List.map_cons]
  have hread : ((c :: text).map some).mapM id = some (c :: text) := mapM_id_eq_some.2 rfl
  rw [decode?, hmarks, List.mapM_append, hread, decode?]
  cases (marks none bytes).mapM id <;> rfl

end Texts

end RuleGateway.Utf8
