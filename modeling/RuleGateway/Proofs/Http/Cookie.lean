import Mathlib.Data.List.DropRight
import RuleGateway.Http.Cookie
import RuleGateway.Proofs.Text.Ascii
import RuleGateway.Proofs.Text.Runs

/-!
# Cookies as a user agent reads them

A user agent reads an attribute of a cookie as a name and a value around the first sign
of equality, with white space around either left out. An attribute is taken out only if
the sign follows the name at once (`isDomain_iff`). So what is left names a domain exactly
where white space stood between the two (`namesDomain_withoutDomain_iff`).
-/

namespace RuleGateway.Cookie

section Attribute

/-- The attributes of a cookie: what follows its name and value, part by part. -/
def attributes (cookie : Text) : List Text := (Text.split ';' cookie).tail

/-- A text without white space at its ends. -/
def strip (isSpace : Char → Bool) (text : Text) : Text :=
  (text.dropWhile isSpace).rdropWhile isSpace

/-- The text of an attribute before its first sign of equality. -/
def nameText (part : Text) : Text := part.takeWhile (· != '=')

/-- The text of an attribute behind its first sign of equality. -/
def valueText (part : Text) : Text := (part.dropWhile (· != '=')).drop 1

/-- Whether a user agent that leaves out the given white space reads an attribute as a
domain. -/
def NamesDomain (isSpace : Char → Bool) (part : Text) : Prop :=
  Text.lower (strip isSpace (nameText part)) = "domain".toList ∧
    strip isSpace (valueText part) ≠ []

/-- Whether there is white space between the name of an attribute and its sign. -/
def HasGap (isSpace : Char → Bool) (part : Text) : Prop :=
  ∃ c, (nameText part).getLast? = some c ∧ isSpace c

instance (isSpace : Char → Bool) (part : Text) : Decidable (NamesDomain isSpace part) :=
  inferInstanceAs (Decidable (_ ∧ _ ≠ []))

instance (isSpace : Char → Bool) (part : Text) : Decidable (HasGap isSpace part) :=
  decidable_of_iff ((nameText part).getLast?.any isSpace) (Option.any_eq_true _ _)

/-- A domain as it is usually written: behind white space the name in letters of either
case, the sign, and something behind it. -/
def WritesDomain (part : Text) : Prop :=
  ∃ blanks word value, part = blanks ++ word ++ '=' :: value ∧ (∀ c ∈ blanks, Text.isBlank c) ∧
    Text.lower word = "domain".toList ∧ value ≠ []

variable {isSpace : Char → Bool} {part text word : Text} {c : Char}

theorem exists_strip (isSpace : Char → Bool) (text : Text) :
    ∃ front back, text = front ++ strip isSpace text ++ back ∧ (∀ c ∈ front, isSpace c) ∧
      ∀ c ∈ back, isSpace c := by
  refine ⟨text.takeWhile isSpace, (text.dropWhile isSpace).rtakeWhile isSpace, ?_, ?_, ?_⟩
  · rw [strip, List.append_assoc, List.rdropWhile_append_rtakeWhile,
      List.takeWhile_append_dropWhile]
  · exact fun c hc => List.mem_takeWhile_imp hc
  · exact fun c hc => List.mem_rtakeWhile_imp hc

/-- A letter of the name is no white space and no sign. -/
theorem not_isBlank_of_mem (hword : Text.lower word = "domain".toList) (hc : c ∈ word) :
    Text.isBlank c = false ∧ c ≠ '=' := by
  have hlower : c.toLower ∈ "domain".toList := hword ▸ List.mem_map_of_mem hc
  have hascii : c.toNat < 0x80 := by
    by_contra hwide
    rw [Text.toLower_of_le (Nat.le_of_not_lt hwide)] at hlower
    have hall : ∀ d ∈ "domain".toList, d.toNat < 0x80 := Text.forall_mem (by decide)
    exact hwide (hall c hlower)
  have hall : ∀ n < 128, (Char.ofNat n).toLower ∈ "domain".toList →
      Text.isBlank (Char.ofNat n) = false ∧ Char.ofNat n ≠ '=' := by decide
  exact Text.forall_ascii
    (p := fun c => c.toLower ∈ "domain".toList → Text.isBlank c = false ∧ c ≠ '=') hall hascii
    hlower

theorem ne_nil_of_lower (hword : Text.lower word = "domain".toList) : word ≠ [] := by
  rintro rfl
  cases hword

/-- An attribute is taken out if it is a domain as it is usually written. -/
theorem isDomain_iff : isDomain part ↔ WritesDomain part := by
  have hcut : domainLead = "domain".toList ++ ['='] := by decide
  have hsame {text : Text} :
      Text.sameLetters text domainLead ↔ Text.lower text = "domain".toList ++ ['='] := by
    have hlead : Text.lower domainLead = "domain".toList ++ ['='] := by decide
    rw [Text.sameLetters, beq_iff_eq, hlead]
  rw [isDomain, Bool.and_eq_true, hsame, Bool.not_eq_true', List.isEmpty_eq_false_iff]
  constructor
  · rintro ⟨hlead, hvalue⟩
    obtain ⟨word, sign, htake, hword, hsign⟩ := List.map_eq_append_iff.1 hlead
    obtain ⟨c, rfl, hc⟩ := List.map_eq_singleton_iff.1 hsign
    obtain rfl := Text.eq_of_toLower rfl hc
    refine ⟨part.takeWhile Text.isBlank, word, (Text.trimStart part).drop domainLead.length, ?_,
      fun c hc => List.mem_takeWhile_imp hc, hword, hvalue⟩
    conv => lhs; rw [← List.takeWhile_append_dropWhile (p := Text.isBlank) (l := part)]
    rw [List.append_assoc, List.append_cons, ← htake, List.take_append_drop]
    rfl
  · rintro ⟨blanks, word, value, rfl, hblanks, hword, hvalue⟩
    have htrim : Text.trimStart (blanks ++ word ++ '=' :: value) = word ++ ['='] ++ value := by
      rw [Text.trimStart, List.append_assoc, Text.dropWhile_append_of_all hblanks,
        List.append_assoc]
      · rfl
      · intro c hc
        rw [List.head?_append_of_ne_nil _ (ne_nil_of_lower hword)] at hc
        exact (not_isBlank_of_mem hword (List.mem_of_mem_head? hc)).1
    have hlower : Text.lower (word ++ ['=']) = "domain".toList ++ ['='] := by
      rw [Text.lower, List.map_append]
      exact congrArg (· ++ ['=']) hword
    have hlength : (word ++ ['=']).length = domainLead.length := by
      rw [hcut, ← hlower, Text.lower, List.length_map]
    rw [htrim, ← hlength, List.take_left, List.drop_left]
    exact ⟨hlower, hvalue⟩

instance : DecidablePred WritesDomain := fun _ => decidable_of_iff _ isDomain_iff

theorem nameText_append (hname : '=' ∉ text) (value : Text) :
    nameText (text ++ '=' :: value) = text :=
  Text.takeWhile_append_of_all (fun _ hc => Text.bne_of_mem hname hc) (Text.stops_cons rfl _)

/-- Nothing stands between the name and the sign of a domain that is taken out. -/
theorem not_hasGap_of_writesDomain (hspace : ∀ c, isSpace c → Text.isBlank c)
    (h : WritesDomain part) : ¬ HasGap isSpace part := by
  obtain ⟨blanks, word, value, rfl, hblanks, hword, -⟩ := h
  have hname : '=' ∉ blanks ++ word := by
    intro hmem
    rcases List.mem_append.1 hmem with hblank | hletter
    · exact absurd (hblanks _ hblank) (by decide)
    · exact (not_isBlank_of_mem hword hletter).2 rfl
  rintro ⟨c, hlast, hc⟩
  rw [nameText_append hname, List.getLast?_append_of_ne_nil _ (ne_nil_of_lower hword)] at hlast
  have hletter := (not_isBlank_of_mem hword (List.mem_of_getLast? hlast)).1
  rw [hspace c hc] at hletter
  cases hletter

/-- A domain that is read, and has nothing between its name and its sign, is one as it is
usually written. -/
theorem writesDomain_of_not_hasGap (hspace : ∀ c, isSpace c → Text.isBlank c)
    (h : NamesDomain isSpace part) (hgap : ¬ HasGap isSpace part) : WritesDomain part := by
  obtain ⟨hword, hvalue⟩ := h
  obtain ⟨front, back, hname, hfront, hback⟩ := exists_strip isSpace (nameText part)
  -- What is left out behind the name would be the gap.
  have hnone : back = [] := by
    by_contra hne
    refine hgap ⟨back.getLast hne, ?_, hback _ (List.getLast_mem hne)⟩
    rw [hname, List.getLast?_append_of_ne_nil _ hne, List.getLast?_eq_some_getLast hne]
  rw [hnone, List.append_nil] at hname
  cases hrest : part.dropWhile (· != '=') with
  | nil =>
    rw [valueText, hrest] at hvalue
    exact absurd rfl hvalue
  | cons sign value =>
    have hsign : sign = '=' := by
      have hhead := List.head?_dropWhile_not (· != '=') part
      simpa [hrest] using hhead
    subst hsign
    refine ⟨front, strip isSpace (nameText part), value, ?_, fun c hc => hspace c (hfront c hc),
      hword, ?_⟩
    · rw [← hname, nameText, ← hrest, List.takeWhile_append_dropWhile]
    · rintro rfl
      rw [valueText, hrest] at hvalue
      exact hvalue rfl

end Attribute

section Domain

variable {isSpace : Char → Bool}

/-- The pair comes first and is kept, whatever it reads as. -/
theorem split_withoutDomain {cookie pair : Text} {parts : List Text}
    (h : Text.split ';' cookie = pair :: parts) :
    Text.split ';' (withoutDomain cookie) = pair :: parts.filter (!isDomain ·) := by
  rw [withoutDomain, keptParts, h]
  apply Text.split_join (List.cons_ne_nil _ _)
  intro part hpart
  have hmem : part ∈ Text.split ';' cookie := by
    rw [h]
    exact (List.cons_subset_cons pair (List.filter_subset_self parts)) hpart
  exact (Text.of_mem_split hmem).2

theorem attributes_withoutDomain (cookie : Text) :
    attributes (withoutDomain cookie) = (attributes cookie).filter (!isDomain ·) := by
  obtain ⟨pair, parts, hsplit⟩ := List.exists_cons_of_ne_nil (Text.split_ne_nil ';' cookie)
  rw [attributes, split_withoutDomain hsplit, attributes, hsplit]
  rfl

/-- A cookie without a domain is left as it is. -/
theorem withoutDomain_eq_self {cookie : Text}
    (h : ∀ part ∈ attributes cookie, ¬ WritesDomain part) :
    withoutDomain cookie = cookie := by
  obtain ⟨pair, parts, hsplit⟩ := List.exists_cons_of_ne_nil (Text.split_ne_nil ';' cookie)
  have hall : parts.filter (!isDomain ·) = parts := by
    apply List.filter_eq_self.2
    intro part hpart
    have hother : ¬ WritesDomain part := h part (by rwa [attributes, hsplit])
    rw [← isDomain_iff, Bool.not_eq_true] at hother
    rw [hother]
    rfl
  rw [← Text.join_split ';' (withoutDomain cookie), split_withoutDomain hsplit, hall, ← hsplit,
    Text.join_split]

/-- What is left of a cookie names a domain exactly if the cookie has a domain with white
space between its name and its sign. -/
theorem namesDomain_withoutDomain_iff (hspace : ∀ c, isSpace c → Text.isBlank c)
    (cookie : Text) :
    (∃ part ∈ attributes (withoutDomain cookie), NamesDomain isSpace part) ↔
      ∃ part ∈ attributes cookie, NamesDomain isSpace part ∧ HasGap isSpace part := by
  have hkept (part : Text) (h : NamesDomain isSpace part) :
      isDomain part = false ↔ HasGap isSpace part := by
    rw [← Bool.not_eq_true, isDomain_iff, ← not_iff_not, not_not]
    exact ⟨not_hasGap_of_writesDomain hspace, writesDomain_of_not_hasGap hspace h⟩
  rw [attributes_withoutDomain]
  constructor
  · rintro ⟨part, hpart, hnames⟩
    obtain ⟨hmem, hdomain⟩ := List.mem_filter.1 hpart
    exact ⟨part, hmem, hnames, (hkept part hnames).1 (by simpa using hdomain)⟩
  · rintro ⟨part, hmem, hnames, hgap⟩
    exact ⟨part, List.mem_filter.2 ⟨hmem, by simpa using (hkept part hnames).2 hgap⟩, hnames⟩

/-- The white space that may stand in a field. -/
def isFieldSpace (c : Char) : Bool := c == ' ' || c == '\t'

/-- A cookie with a domain and white space around its value is left without one. -/
theorem spacedCookie_names_no_domain :
    (∀ c, isFieldSpace c → Text.isBlank c) ∧
      ¬ ∃ part ∈ attributes (withoutDomain "sid=1; \tDOMAIN= up.example ; Path=/"),
        NamesDomain isFieldSpace part := by
  have hspace : ∀ c, isFieldSpace c → Text.isBlank c := by
    intro c hc
    rw [isFieldSpace, Bool.or_eq_true, beq_iff_eq, beq_iff_eq] at hc
    rcases hc with rfl | rfl <;> decide
  refine ⟨hspace, fun hnames => ?_⟩
  have hgap := (namesDomain_withoutDomain_iff hspace _).1 hnames
  revert hgap
  decide

/-- A cookie with a blank before the sign of its domain keeps the domain. -/
theorem gappedCookie_names_domain :
    withoutDomain "a=b; Domain =x.com" = "a=b; Domain =x.com" ∧
      ∃ part ∈ attributes (withoutDomain "a=b; Domain =x.com"), NamesDomain isFieldSpace part := by
  decide

end Domain

end RuleGateway.Cookie
