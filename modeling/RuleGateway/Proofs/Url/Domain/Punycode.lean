import RuleGateway.Proofs.Url.Domain.Mapping

/-!
# Punycode read back

A label in Punycode is read as the label (`decode?_encode`), as long as neither is too long
for the reader. While the encoder goes through the label, the decoder that has read what is
written so far has placed the characters that the encoder has passed, and what the encoder
has counted is how far the decoder is behind it.
-/

namespace RuleGateway.Punycode

section Numbers

variable {bias place n q : Nat}

theorem value?_digit (h : n < 36) : value? (digit n) = some n := by
  have hall : ∀ n < 36, value? (digit n) = some n := by decide
  exact hall n h

theorem threshold_bounds (bias place : Nat) :
    1 ≤ threshold bias place ∧ threshold bias place ≤ 26 := by
  rw [threshold]
  omega

/-- A bias that is not too large: the thresholds have reached their bound at the seventh
place. -/
def maxBias : Nat := 215

theorem settle_le {times delta : Nat} (h : delta ≤ 455 * Nat.pow 35 n) (sum : Nat) :
    settle times delta sum ≤ sum + 36 * n + 35 := by
  have hlast (delta sum : Nat) : sum + 36 * delta / (delta + 38) ≤ sum + 35 := by
    have hlt : 36 * delta / (delta + 38) < 36 :=
      (Nat.div_lt_iff_lt_mul (by omega)).2 (by omega)
    omega
  induction times generalizing delta sum n with
  | zero =>
    have hle := hlast delta sum
    rw [settle]
    omega
  | succ times ih =>
    rw [settle]
    split
    · rename_i hlarge
      cases n with
      | zero =>
        have hone : Nat.pow 35 0 = 1 := rfl
        omega
      | succ n =>
        have hquotient : delta / 35 ≤ 455 * Nat.pow 35 n := by
          rw [Nat.pow_eq, Nat.pow_succ, ← Nat.pow_eq] at h
          omega
        have hle := ih hquotient (sum + 36)
        omega
    · have hle := hlast delta sum
      omega

theorem adapt_le {delta : Nat} (h : delta < bound) (placed : Nat) (isFirst : Bool) :
    adapt delta placed isFirst ≤ maxBias := by
  have hbound : bound = 4294967296 := rfl
  have hsmall (delta : Nat) (h : delta ≤ 2147483648) : delta + delta / placed ≤ 455 * Nat.pow 35 5 := by
    have hle := Nat.div_le_self delta placed
    have hpower : Nat.pow 35 5 = 52521875 := rfl
    omega
  have hsettled (delta : Nat) (h : delta ≤ 2147483648) :
      settle (delta + delta / placed) (delta + delta / placed) 0 ≤ maxBias :=
    Nat.le_trans (settle_le (hsmall delta h) 0) (by decide)
  rw [adapt]
  cases isFirst with
  | true => exact hsettled (delta / 700) (by omega)
  | false => exact hsettled (delta / 2) (by omega)

/-- A list that ascends still does when what it has twice is left out, and then has nothing
twice. -/
theorem pairwise_eraseDups {points : List Nat} (h : points.Pairwise (· ≤ ·)) :
    points.eraseDups.Pairwise (· < ·) := by
  induction hlength : points.length using Nat.strongRecOn generalizing points with
  | ind length ih =>
    cases points with
    | nil => exact .nil
    | cons m points =>
      obtain ⟨hm, hrest⟩ := List.pairwise_cons.1 h
      have hshort : (points.filter fun n => !n == m).length < length := by
        rw [← hlength]
        exact Nat.lt_succ_of_le (List.length_filter_le ..)
      rw [List.eraseDups_cons]
      refine List.pairwise_cons.2 ⟨fun n hn => ?_, ih _ hshort (hrest.filter _) rfl⟩
      obtain ⟨hmem, hne⟩ := List.mem_filter.1 (List.mem_eraseDups.1 hn)
      have hle := hm n hmem
      have hother : n ≠ m := by simpa using hne
      omega

end Numbers

section Digits

variable {d : Decoder} {text : Text} {q : Nat}

/-- The decoder after the digits of a text, if it takes them. -/
def feed (d : Option Decoder) (text : Text) : Option Decoder :=
  text.foldl (fun d c => d.bind (·.step c)) d

theorem feed_append (d : Option Decoder) (front back : Text) :
    feed d (front ++ back) = feed (feed d front) back := List.foldl_append ..

theorem feed_cons (d : Decoder) (c : Char) (text : Text) :
    feed (some d) (c :: text) = feed (d.step c) text := rfl

/-- The decoder after the last digit of a number, when the counter is at a given place. -/
def Decoder.placed (d : Decoder) (counter : Nat) : Option Decoder :=
  let size := d.output.length + 1
  let point := d.point + counter / size
  let slot := counter % size
  if point < 0x80 ∨ (0xD800 ≤ point ∧ point < 0xE000) ∨ 0x110000 ≤ point then none
  else
    some
      { output := d.output.take slot ++ Char.ofNat point :: d.output.drop slot, point
        before := slot + 1, counter := slot + 1
        bias := adapt (counter - d.before) size (d.before == 0), place := 1, weight := 1
        inside := false }

theorem Decoder.step_last {v : Nat} {c : Char} (hvalue : value? c = some v)
    (hlast : v < threshold d.bias d.place) (hbound : d.counter + v * d.weight < bound) :
    d.step c = d.placed (d.counter + v * d.weight) := by
  rw [Decoder.step, hvalue]
  simp only [Option.bind_eq_bind, Option.bind_some]
  rw [if_neg (Nat.not_le.2 hbound), if_pos hlast]
  rfl

theorem Decoder.step_inside {v : Nat} {c : Char} (hvalue : value? c = some v)
    (hinside : threshold d.bias d.place ≤ v) (hbound : d.counter + v * d.weight < bound)
    (hweight : d.weight * (36 - threshold d.bias d.place) < bound) :
    d.step c = some { d with
      counter := d.counter + v * d.weight, place := d.place + 1
      weight := d.weight * (36 - threshold d.bias d.place), inside := true } := by
  rw [Decoder.step, hvalue]
  simp only [Option.bind_eq_bind, Option.bind_some]
  rw [if_neg (Nat.not_le.2 hbound), if_neg (Nat.not_lt.2 hinside),
    if_neg (Nat.not_le.2 hweight)]

/-- Where another digit follows, its weight is not too large: the weight grows to the full
only as long as the bias reaches, and then less than the number that is left shrinks. -/
theorem weight_lt {bias place weight : Nat} (hbias : bias ≤ maxBias) (hplace : 1 ≤ place)
    (hweight : weight ≤ Nat.pow 35 (place - 1)) (hq : threshold bias place ≤ q)
    (hbound : q * weight < bound) : weight * (36 - threshold bias place) < bound := by
  obtain ⟨hlow, hhigh⟩ := threshold_bounds bias place
  have hmax : maxBias = 215 := rfl
  have hlimit : bound = 4294967296 := rfl
  by_cases hfull : threshold bias place = 26
  · have hle : 26 * weight ≤ q * weight := Nat.mul_le_mul_right _ (hfull ▸ hq)
    rw [hfull]
    omega
  · have hearly : place ≤ 6 := by
      rw [threshold] at hfull
      omega
    calc weight * (36 - threshold bias place)
        ≤ Nat.pow 35 (place - 1) * 35 := Nat.mul_le_mul hweight (by omega)
      _ ≤ Nat.pow 35 5 * 35 := Nat.mul_le_mul_right _ (Nat.pow_le_pow_right (by decide) (by omega))
      _ < bound := by decide

/-- The digits of a number move the counter by the number. -/
theorem feed_digits {times : Nat} (htimes : q < times) (hbias : d.bias ≤ maxBias)
    (hplace : 1 ≤ d.place) (hweight : d.weight ≤ Nat.pow 35 (d.place - 1))
    (hbound : d.counter + q * d.weight < bound) :
    feed (some d) (digits times d.bias d.place q) = d.placed (d.counter + q * d.weight) := by
  induction times generalizing d q with
  | zero => omega
  | succ times ih =>
    obtain ⟨hlow, hhigh⟩ := threshold_bounds d.bias d.place
    rw [digits]
    split
    · rename_i hlast
      exact d.step_last (value?_digit (by omega)) hlast hbound
    · rename_i hinside
      rw [Nat.not_lt] at hinside
      have hwide := weight_lt hbias hplace hweight hinside (by omega)
      generalize ht : threshold d.bias d.place = t at hlow hhigh hinside hwide ⊢
      have hspan : 0 < 36 - t := by omega
      have hmod := Nat.mod_lt (q - t) hspan
      have hdigit := value?_digit (show t + (q - t) % (36 - t) < 36 by omega)
      have hwhole : t + (q - t) % (36 - t) + (q - t) / (36 - t) * (36 - t) = q := by
        have hdiv := Nat.mod_add_div' (q - t) (36 - t)
        omega
      have hmoved : (t + (q - t) % (36 - t)) * d.weight +
          (q - t) / (36 - t) * (d.weight * (36 - t)) = q * d.weight := by
        rw [Nat.mul_comm d.weight, ← Nat.mul_assoc, ← Nat.add_mul, hwhole]
      have hgrown : d.weight * (36 - t) ≤ Nat.pow 35 (d.place + 1 - 1) := by
        have hplaces : d.place + 1 - 1 = d.place - 1 + 1 := by omega
        rw [hplaces, Nat.pow_eq, Nat.pow_succ]
        exact Nat.mul_le_mul hweight (by omega)
      have hshorter : (q - t) / (36 - t) < times :=
        Nat.lt_of_le_of_lt (Nat.div_le_self ..) (by omega)
      rw [feed_cons, Decoder.step_inside hdigit (by omega) (by omega) (ht.symm ▸ hwide), ht]
      refine Eq.trans (ih hshorter ?_ ?_ ?_ ?_) ?_
      · exact hbias
      · exact Nat.le_add_left ..
      · exact hgrown
      · dsimp only
        omega
      · dsimp only
        rw [Nat.add_assoc, hmoved]
        rfl

end Digits

section Label

variable {label front back : Text} {ascii m : Nat} {e : Encoder} {d : Decoder}

/-- The characters of a text below a code point. -/
def below (n : Nat) (text : Text) : Text := text.filter (·.toNat < n)

/-- A decoder that has read what an encoder has written, while characters with the code
point `m` are being placed and the encoder stands between two parts of the label. -/
structure IsBehind (ascii m : Nat) (front back : Text) (e : Encoder) (d : Decoder) : Prop where
  output : d.output = below (m + 1) front ++ below m back
  counted : e.delta + d.counter = (m - d.point) * (d.output.length + 1) + (below (m + 1) front).length
  point : d.point ≤ m
  bias : e.bias = d.bias
  small : d.bias ≤ maxBias
  before : d.before = d.counter
  place : d.place = 1
  weight : d.weight = 1
  inside : d.inside = false
  placed : e.placed = d.output.length
  least : ascii ≤ e.placed
  first : (e.placed == ascii) = (d.counter == 0)

theorem below_append (n : Nat) (front back : Text) :
    below n (front ++ back) = below n front ++ below n back := List.filter_append ..

theorem below_cons (n : Nat) (c : Char) (back : Text) :
    below n (c :: back) = below n [c] ++ below n back := below_append n [c] back

theorem below_singleton_of_lt {n : Nat} {c : Char} (h : c.toNat < n) : below n [c] = [c] :=
  List.filter_cons_of_pos (decide_eq_true h)

theorem below_singleton_of_le {n : Nat} {c : Char} (h : n ≤ c.toNat) : below n [c] = [] :=
  List.filter_cons_of_neg (by simpa using h)

theorem length_below_le (n : Nat) (text : Text) : (below n text).length ≤ text.length :=
  List.length_filter_le ..

/-- A number whose quotient leads to the code point of a character places the character. -/
theorem Decoder.placed_eq {c : Char} {rounds slot : Nat} (hwide : 0x80 ≤ c.toNat)
    (hpoint : d.point + rounds = c.toNat) (hslot : slot ≤ d.output.length) :
    d.placed (rounds * (d.output.length + 1) + slot) = some
      { output := d.output.take slot ++ c :: d.output.drop slot, point := c.toNat
        before := slot + 1, counter := slot + 1
        bias := adapt (rounds * (d.output.length + 1) + slot - d.before) (d.output.length + 1)
          (d.before == 0)
        place := 1, weight := 1, inside := false } := by
  have hquotient : (rounds * (d.output.length + 1) + slot) / (d.output.length + 1) = rounds := by
    rw [Nat.mul_comm, Nat.mul_add_div (Nat.succ_pos _), Nat.div_eq_of_lt (Nat.lt_succ_of_le hslot),
      Nat.add_zero]
  have hrest : (rounds * (d.output.length + 1) + slot) % (d.output.length + 1) = slot := by
    rw [Nat.mul_comm, Nat.mul_add_mod, Nat.mod_eq_of_lt (Nat.lt_succ_of_le hslot)]
  have hvalid : ¬ (c.toNat < 0x80 ∨ (0xD800 ≤ c.toNat ∧ c.toNat < 0xE000) ∨
      0x110000 ≤ c.toNat) := by
    have hc : c.toNat < 0xd800 ∨ 0xdfff < c.toNat ∧ c.toNat < 0x110000 := c.valid
    omega
  rw [Decoder.placed, hquotient, hrest, hpoint, if_neg hvalid, Char.ofNat_toNat]

/-- The place where the encoder stands is one between the characters of the decoder. -/
theorem IsBehind.slot_le (h : IsBehind ascii m front back e d) :
    (below (m + 1) front).length ≤ d.output.length := by
  rw [h.output, List.length_append]
  omega

/-- The number that leads to the place where the encoder stands is one the decoder can hold,
as the label is not too long. -/
theorem IsBehind.counter_lt (hlength : (front ++ back).length ≤ Domain.maxLabel)
    (hcode : m < 0x110000) (h : IsBehind ascii m front back e d) :
    e.delta + d.counter < bound := by
  have hfew : d.output.length ≤ 1000 := by
    have hfront := length_below_le (m + 1) front
    have hback := length_below_le m back
    have hmax : Domain.maxLabel = 1000 := rfl
    rw [List.length_append] at hlength
    rw [h.output, List.length_append]
    omega
  have hrounds : (m - d.point) * (d.output.length + 1) ≤ 0x110000 * 1001 :=
    Nat.mul_le_mul (by omega) (by omega)
  have hcounted := h.counted
  have hslot := h.slot_le
  have hlimit : bound = 4294967296 := rfl
  omega

/-- A character below the code point is there already: the encoder counts it. -/
theorem IsBehind.passed {c : Char} (hlt : c.toNat < m)
    (h : IsBehind ascii m front (c :: back) e d) :
    IsBehind ascii m (front ++ [c]) back { e with delta := e.delta + 1 } d := by
  have houtput := h.output
  have hcounted := h.counted
  have hfront : below (m + 1) (front ++ [c]) = below (m + 1) front ++ [c] := by
    rw [below_append, below_singleton_of_lt (Nat.lt_succ_of_lt hlt)]
  refine ⟨?_, ?_, h.point, h.bias, h.small, h.before, h.place, h.weight, h.inside, h.placed,
    h.least, h.first⟩
  · rw [below_cons, below_singleton_of_lt hlt] at houtput
    rw [houtput, hfront, List.append_assoc]
  · rw [hfront, List.length_append, List.length_singleton]
    dsimp only
    omega

/-- A character above the code point waits for its own. -/
theorem IsBehind.waits {c : Char} (hgt : m < c.toNat)
    (h : IsBehind ascii m front (c :: back) e d) :
    IsBehind ascii m (front ++ [c]) back e d := by
  have houtput := h.output
  have hfront : below (m + 1) (front ++ [c]) = below (m + 1) front := by
    rw [below_append, below_singleton_of_le (Nat.succ_le_of_lt hgt), List.append_nil]
  refine ⟨?_, ?_, h.point, h.bias, h.small, h.before, h.place, h.weight, h.inside, h.placed,
    h.least, h.first⟩
  · rw [below_cons, below_singleton_of_le (Nat.le_of_lt hgt), List.nil_append] at houtput
    rw [houtput, hfront]
  · rw [hfront]
    exact h.counted

/-- A character with the code point is written as a number, and the number leads the decoder
to its place. -/
theorem IsBehind.place_char {c : Char} (hm : 0x80 ≤ m) (heq : c.toNat = m)
    (hlength : (front ++ c :: back).length ≤ Domain.maxLabel)
    (h : IsBehind ascii m front (c :: back) e d) :
    ∃ d', feed (some d) (digits (e.delta + 1) e.bias 1 e.delta) = some d' ∧
      IsBehind ascii m (front ++ [c]) back (e.visit m ascii c) d' := by
  have hslot := h.slot_le
  have hbound := h.counter_lt hlength (heq ▸ Domain.toNat_lt_codeBound c)
  obtain ⟨houtput, hcounted, hpoint, hbias, hsmall, hbefore, hplace, hweight, -, hplaced, hleast,
    hfirst⟩ := h
  rw [below_cons, below_singleton_of_le (Nat.le_of_eq heq.symm), List.nil_append] at houtput
  have hfeed := feed_digits (d := d) (Nat.lt_succ_self e.delta) hsmall (Nat.le_of_eq hplace.symm)
    (Nat.le_trans (Nat.le_of_eq hweight) (Nat.pow_pos (by decide))) (by rw [hweight]; omega)
  have hmoved : d.counter + e.delta * d.weight =
      (m - d.point) * (d.output.length + 1) + (below (m + 1) front).length := by
    rw [hweight, ← hcounted]
    omega
  rw [hmoved, Decoder.placed_eq (heq.symm ▸ hm) (by omega) hslot, hplace, ← hbias] at hfeed
  refine ⟨_, hfeed, ?_⟩
  rw [Encoder.visit, if_neg (by omega), if_pos heq]
  have hpassed : (m - d.point) * (d.output.length + 1) + (below (m + 1) front).length - d.before =
      e.delta := by
    rw [← hcounted, hbefore]
    omega
  have hplacedfront : below (m + 1) (front ++ [c]) = below (m + 1) front ++ [c] := by
    rw [below_append, below_singleton_of_lt (by omega)]
  constructor
  case output =>
    rw [hplacedfront, houtput, List.take_left, List.drop_left, List.append_assoc]
    rfl
  case counted =>
    have hmore : (below (m + 1) (front ++ [c])).length = (below (m + 1) front).length + 1 := by
      rw [hplacedfront, List.length_append, List.length_singleton]
    dsimp only
    rw [hmore, heq, Nat.sub_self, Nat.zero_mul]
  case point => exact Nat.le_of_eq heq
  case bias =>
    dsimp only
    rw [hpassed, hfirst, hplaced, hbefore]
  case small => exact adapt_le (by omega) _ _
  case before => rfl
  case place => rfl
  case weight => rfl
  case inside => rfl
  case placed =>
    dsimp only
    rw [List.length_append, List.length_cons, List.length_take, List.length_drop]
    omega
  case least =>
    dsimp only
    omega
  case first =>
    have hone : (e.placed + 1 == ascii) = false := beq_eq_false_iff_ne.2 (by omega)
    exact hone

/-- One character of the label: the encoder writes a number only if it is one to be placed
now, and this leads the decoder to the same character. -/
theorem exists_isBehind_visit {start : Decoder} {c : Char} (hm : 0x80 ≤ m)
    (hlength : (front ++ c :: back).length ≤ Domain.maxLabel)
    (hread : feed (some start) e.output = some d) (h : IsBehind ascii m front (c :: back) e d) :
    ∃ d', feed (some start) (e.visit m ascii c).output = some d' ∧
      IsBehind ascii m (front ++ [c]) back (e.visit m ascii c) d' := by
  rcases Nat.lt_trichotomy c.toNat m with hlt | heq | hgt
  · rw [Encoder.visit, if_pos hlt]
    exact ⟨d, hread, h.passed hlt⟩
  · obtain ⟨d', hfeed, h'⟩ := h.place_char hm heq hlength
    refine ⟨d', ?_, h'⟩
    rw [Encoder.visit, if_neg (by omega), if_pos heq, feed_append, hread, hfeed]
  · rw [Encoder.visit, if_neg (by omega), if_neg (by omega)]
    exact ⟨d, hread, h.waits hgt⟩

theorem exists_isBehind_foldl {start : Decoder} (hm : 0x80 ≤ m)
    (hlength : (front ++ back).length ≤ Domain.maxLabel)
    (hread : feed (some start) e.output = some d) (h : IsBehind ascii m front back e d) :
    ∃ d', feed (some start) (back.foldl (Encoder.visit m ascii) e).output = some d' ∧
      IsBehind ascii m (front ++ back) [] (back.foldl (Encoder.visit m ascii) e) d' := by
  induction back generalizing front e d with
  | nil =>
    rw [List.append_nil]
    exact ⟨d, hread, h⟩
  | cons c back ih =>
    obtain ⟨d', hread', h'⟩ := exists_isBehind_visit hm hlength hread h
    have hwhole : front ++ c :: back = front ++ [c] ++ back := by simp
    rw [hwhole] at hlength ⊢
    exact ih hlength hread' h'

/-- Once all characters of one code point are placed, the encoder starts again for the next
one. -/
theorem IsBehind.restart (h : IsBehind ascii m label [] e d) :
    IsBehind ascii (m + 1) [] label { e with delta := e.delta + 1 } d := by
  have houtput : d.output = below (m + 1) label := h.output.trans (List.append_nil _)
  refine ⟨houtput, ?_, Nat.le_succ_of_le h.point, h.bias, h.small, h.before, h.place, h.weight,
    h.inside, h.placed, h.least, h.first⟩
  have hcounted := h.counted
  have hpoint := h.point
  have hnext : m + 1 - d.point = m - d.point + 1 := by omega
  rw [houtput] at hcounted ⊢
  dsimp only
  rw [hnext, Nat.add_mul]
  have hnone : (below (m + 1 + 1) ([] : Text)).length = 0 := rfl
  omega

/-- Where no character of the label has a code point from `m` up to `next`, the encoder may
skip to it. -/
theorem IsBehind.skip {next : Nat} (h : IsBehind ascii m [] label e d) (hnext : m ≤ next)
    (hgap : ∀ c ∈ label, c.toNat < next → c.toNat < m) :
    IsBehind ascii next [] label { e with delta := e.delta + (next - m) * (e.placed + 1) } d := by
  have hsame : below next label = below m label := by
    refine List.filter_congr fun c hc => ?_
    rw [decide_eq_decide]
    exact ⟨hgap c hc, fun hlt => Nat.lt_of_lt_of_le hlt hnext⟩
  refine ⟨?_, ?_, Nat.le_trans h.point hnext, h.bias, h.small, h.before, h.place, h.weight,
    h.inside, h.placed, h.least, h.first⟩
  · rw [hsame]
    exact h.output
  · have hcounted := h.counted
    have hpoint := h.point
    have hrounds : next - d.point = (m - d.point) + (next - m) := by omega
    dsimp only
    rw [hrounds, Nat.add_mul, h.placed]
    have hnone (n : Nat) : (below n ([] : Text)).length = 0 := rfl
    rw [hnone] at hcounted ⊢
    omega

theorem exists_output_run {start : Decoder} {points : List Nat} (hm : 0x80 ≤ m)
    (hlength : label.length ≤ Domain.maxLabel) (hpoints : points.Pairwise (· < ·))
    (hlow : ∀ n ∈ points, m ≤ n) (hlabel : ∀ c ∈ label, c.toNat < m ∨ c.toNat ∈ points)
    (hread : feed (some start) e.output = some d) (h : IsBehind ascii m [] label e d) :
    ∃ d', feed (some start) (Encoder.run label ascii points m e).output = some d' ∧
      d'.output = label ∧ d'.inside = false := by
  induction points generalizing m e d with
  | nil =>
    have hall : below m label = label := List.filter_eq_self.2 fun c hc =>
      decide_eq_true ((hlabel c hc).resolve_right (List.not_mem_nil))
    exact ⟨d, hread, h.output.trans hall, h.inside⟩
  | cons n points ih =>
    rw [List.forall_mem_cons] at hlow
    obtain ⟨hn, hpoints⟩ := List.pairwise_cons.1 hpoints
    have hgap : ∀ c ∈ label, c.toNat < n → c.toNat < m := by
      intro c hc hlt
      rcases hlabel c hc with hdone | hmem
      · exact hdone
      · rcases List.mem_cons.1 hmem with heq | hmem
        · omega
        · have := hn _ hmem
          omega
    obtain ⟨d', hread', h'⟩ := exists_isBehind_foldl
      (e := { e with delta := e.delta + (n - m) * (e.placed + 1) }) (Nat.le_trans hm hlow.1)
      (by rwa [List.nil_append]) hread (h.skip hlow.1 hgap)
    rw [List.nil_append] at h'
    rw [Encoder.run]
    refine ih (by omega) hpoints hn (fun c hc => ?_) hread' h'.restart
    rcases hlabel c hc with hdone | hmem
    · exact .inl (by omega)
    · rcases List.mem_cons.1 hmem with heq | hmem
      · exact .inl (by omega)
      · exact .inr hmem

end Label

section Reading

variable {label : Text}

/-- The decoder before the first digit, with the characters that are in ASCII already. -/
def begin (ascii : Text) : Decoder :=
  { output := ascii, point := 0x80, before := 0, counter := 0, bias := 72, place := 1
    weight := 1, inside := false }

theorem isBehind_begin (label : Text) :
    IsBehind (below 0x80 label).length 0x80 [] label
      { output := [], delta := 0, bias := 72, placed := (below 0x80 label).length }
      (begin (below 0x80 label)) where
  output := rfl
  counted := by simp [begin, below]
  point := Nat.le_refl _
  bias := rfl
  small := show 72 ≤ maxBias by decide
  before := rfl
  place := rfl
  weight := rfl
  inside := rfl
  placed := rfl
  least := Nat.le_refl _
  first := beq_self_eq_true _

/-- The code points of the characters outside ASCII, in ascending order. -/
def points (label : Text) : List Nat :=
  ((label.filter (0x80 ≤ ·.toNat)).map Char.toNat).mergeSort.eraseDups

theorem mem_points {n : Nat} : n ∈ points label ↔ ∃ c ∈ label, 0x80 ≤ c.toNat ∧ c.toNat = n := by
  simp [points, List.mem_eraseDups, List.mem_mergeSort, and_assoc]

theorem pairwise_points (label : Text) : (points label).Pairwise (· < ·) := by
  refine pairwise_eraseDups ((List.pairwise_mergeSort ?_ ?_ _).imp fun h => of_decide_eq_true h)
  · simp only [decide_eq_true_eq]
    exact fun a b c => Nat.le_trans
  · simp only [Bool.or_eq_true, decide_eq_true_eq]
    exact fun a b => Nat.le_total a b

/-- The digits that the encoder writes behind the characters in ASCII. -/
def written (label : Text) : Text :=
  (Encoder.run label (below 0x80 label).length (points label) 0x80
    { output := [], delta := 0, bias := 72, placed := (below 0x80 label).length }).output

theorem encode_eq (label : Text) : encode label =
    below 0x80 label ++ (if (below 0x80 label).isEmpty then [] else ['-']) ++ written label := rfl

theorem feed_written (h : label.length ≤ Domain.maxLabel) :
    ∃ d, feed (some (begin (below 0x80 label))) (written label) = some d ∧
      d.output = label ∧ d.inside = false := by
  refine exists_output_run (Nat.le_refl _) h (pairwise_points label) (fun n hn => ?_)
    (fun c hc => ?_) rfl (isBehind_begin label)
  · obtain ⟨c, -, hwide, rfl⟩ := mem_points.1 hn
    exact hwide
  · rcases Nat.lt_or_ge c.toNat 0x80 with hlt | hwide
    · exact .inl hlt
    · exact .inr (mem_points.2 ⟨c, hc, hwide, rfl⟩)

/-- What the decoder makes of a text that is cut behind its last hyphen. -/
theorem length_le_maxForm {text : Text} (h : decode? text = some label) :
    text.length ≤ maxForm := by
  rw [decode?] at h
  obtain ⟨hshort, -⟩ := Option.ite_none_left_eq_some.1 h
  exact Nat.le_of_not_lt fun hlong => hshort (.inl hlong)

theorem decode?_eq {text ascii digits : Text}
    (htail : (text.reverse.takeWhile (· != '-')).reverse = digits)
    (hascii : text.take (text.length - digits.length - 1) = ascii)
    (hform : text.length ≤ maxForm) (hmark : ascii = [] → text.length ≤ digits.length) :
    decode? text = (feed (some (begin ascii)) digits).bind fun d =>
      if d.inside then none else some d.output := by
  have hcut : ¬ (maxForm < text.length ∨ (ascii.isEmpty = true ∧ digits.length < text.length)) := by
    rintro (hlong | ⟨hnil, hshort⟩)
    · omega
    · have := hmark (List.isEmpty_iff.1 hnil)
      omega
  rw [decode?, htail]
  dsimp only
  rw [hascii, if_neg hcut]
  rfl

/-- A label in Punycode is read as the label. -/
theorem decode?_encode (h : label.length ≤ Domain.maxLabel)
    (hform : (encode label).length ≤ maxForm) : decode? (encode label) = some label := by
  obtain ⟨d, hfeed, houtput, hinside⟩ := feed_written h
  have hdigits : ∀ c ∈ (written label).reverse, (c != '-') = true := by
    intro c hc
    have hall : ∀ d ∈ digitChars, (d != '-') = true := Text.forall_mem (by decide)
    exact hall c (output_run_subset (List.nil_subset _) _ _ _ (List.mem_reverse.1 hc))
  have hread : decode? (encode label) =
      (feed (some (begin (below 0x80 label))) (written label)).bind fun d =>
        if d.inside then none else some d.output := by
    by_cases hnil : below 0x80 label = []
    · have hencode : encode label = written label := by
        rw [encode_eq, hnil]
        rfl
      rw [hencode] at hform ⊢
      refine decode?_eq ?_ ?_ hform fun _ => Nat.le_refl _
      · have hall := Text.takeWhile_append_of_all hdigits (Text.stops_nil _)
        rw [List.append_nil] at hall
        rw [hall, List.reverse_reverse]
      · rw [hnil, Nat.sub_self]
        rfl
    · have hencode : encode label = below 0x80 label ++ '-' :: written label := by
        rw [encode_eq, List.isEmpty_eq_false_iff.2 hnil, if_neg Bool.false_ne_true,
          List.append_assoc]
        rfl
      rw [hencode] at hform ⊢
      refine decode?_eq ?_ ?_ hform fun h => absurd h hnil
      · have hstops : Text.Stops (· != '-') (['-'] ++ (below 0x80 label).reverse) :=
          Text.stops_cons rfl _
        rw [List.reverse_append, List.reverse_cons, List.append_assoc,
          Text.takeWhile_append_of_all hdigits hstops, List.reverse_reverse]
      · rw [List.length_append, List.length_cons]
        exact List.take_left' (by omega)
  rw [hread, hfeed, Option.bind_some, hinside, if_neg Bool.false_ne_true, houtput]

end Reading

end RuleGateway.Punycode
