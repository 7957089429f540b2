import RuleGateway.Pattern.Filling
import RuleGateway.Proofs.Pattern.Splitting
import RuleGateway.Proofs.Text.WellFormed

/-!
# Templates as they are split and as they are passed

The pass over the bytes of a template stops at every marker. Its places are always between
characters, since markers and the characters of references are characters of ASCII and no
byte of another character is one of them. What it has given out and what it has passed are
the parts that it is behind, one part after another (`fillFrom?_encode`). So it gives out
what the parts stand for, and `fill_eq_iff` says what that is.
-/

namespace RuleGateway

namespace Utf8

variable {kind : Char → Bool}

theorem isBorder_encode (front back : Text) :
    isBorder (encode (front ++ back)) (encode front).length := by
  rw [isBorder, encode_append, List.getElem?_append_right (Nat.le_refl _), Nat.sub_self]
  cases back with
  | nil =>
    rw [encode, encode, List.flatMap_nil, List.append_nil]
    exact beq_self_eq_true _
  | cons c back =>
    obtain ⟨b, more, hbytes, hb⟩ := exists_encodeChar_eq c
    rw [encode_cons, hbytes, List.cons_append, List.getElem?_cons_zero]
    exact bne_iff_ne.2 (by omega)

theorem encode_singleton (c : Char) : encode [c] = encodeChar c :=
  List.flatMap_singleton encodeChar c

theorem drop_encode (front back : Text) :
    (encode (front ++ back)).drop (encode front).length = encode back := by
  rw [encode_append, List.drop_left]

theorem length_encode_append (front back : Text) :
    (encode (front ++ back)).length = (encode front).length + (encode back).length := by
  rw [encode_append, List.length_append]

theorem slice?_encode (front middle back : Text) :
    slice? (encode (front ++ middle ++ back)) (encode front).length
      (encode (front ++ middle)).length = some middle := by
  have hstart : isBorder (encode (front ++ middle ++ back)) (encode front).length := by
    rw [List.append_assoc]
    exact isBorder_encode front (middle ++ back)
  have hstop := isBorder_encode (front ++ middle) back
  have hle : (encode front).length ≤ (encode (front ++ middle)).length := by
    rw [length_encode_append]
    exact Nat.le_add_right _ _
  rw [slice?, if_pos ⟨hle, hstart, hstop⟩, List.append_assoc, drop_encode, length_encode_append,
    Nat.add_sub_cancel_left, encode_append, List.take_left, decode?_encode]

/-- The first byte of a character is one of a kind of ASCII exactly if the character is. -/
theorem exists_encodeChar_kind (hkind : ∀ c, kind c → c.toNat < 0x80) (c : Char) :
    ∃ b more, encodeChar c = b :: more ∧ kind (Char.ofNat b.toNat) = kind c ∧
      (kind c → more = []) := by
  by_cases hc : c.toNat < 0x80
  · refine ⟨c.toNat.toUInt8, [], encodeChar_of_lt hc, ?_, fun _ => rfl⟩
    rw [UInt8.toNat_ofNat_of_lt' (show _ < 0x100 by omega), Char.ofNat_toNat]
  · obtain ⟨b, more, hbytes, -⟩ := exists_encodeChar_eq c
    have hb : 0x80 ≤ b.toNat := le_of_mem_encodeChar (Nat.not_lt.1 hc) (by simp [hbytes])
    have hb' : b.toNat < 256 := b.toNat_lt
    have hno : kind c = false := Bool.eq_false_iff.2 fun h => hc (hkind c h)
    refine ⟨b, more, hbytes, ?_, fun h => absurd (hkind c h) hc⟩
    rw [hno, Bool.eq_false_iff]
    intro h
    have hlow := hkind _ h
    rw [toNat_ofNat (.inl (by omega))] at hlow
    omega

/-- A run of a kind of ASCII is the same in characters and in bytes. -/
theorem takeWhile_encode (hkind : ∀ c, kind c → c.toNat < 0x80) (text : Text) :
    (encode text).takeWhile (fun b => kind (Char.ofNat b.toNat)) =
      encode (text.takeWhile kind) := by
  induction text with
  | nil => rfl
  | cons c text ih =>
    obtain ⟨b, more, hbytes, hb, hmore⟩ := exists_encodeChar_kind hkind c
    by_cases hc : kind c
    · obtain rfl := hmore hc
      rw [List.takeWhile_cons_of_pos hc, encode_cons, encode_cons, hbytes, List.singleton_append,
        List.singleton_append, List.takeWhile_cons, if_pos (hb.trans hc), ih]
    · rw [List.takeWhile_cons_of_neg hc, encode_cons, hbytes, List.cons_append,
        List.takeWhile_cons, if_neg (hb ▸ hc)]
      rfl

end Utf8

namespace Template

open Utf8

section Kinds

variable {c : Char}

theorem toNat_lt_of_isWord (h : isWord c) : c.toNat < 0x80 := by
  have hword : (c.isAlpha || c.isDigit || c == '_') = true := h
  simp only [Bool.or_eq_true, beq_iff_eq] at hword
  rcases hword with (hletter | hdigit) | rfl
  · exact Text.toNat_lt_of_isAlpha hletter
  · exact Text.toNat_lt_of_isDigit hdigit
  · decide

theorem toNat_lt_of_kindOf (marker : Char) (h : kindOf marker c) : c.toNat < 0x80 := by
  rw [kindOf] at h
  split at h
  · exact toNat_lt_of_isWord (isWord_of_isDigit h)
  · exact toNat_lt_of_isWord h

theorem IsMarker.encodeChar_eq (h : IsMarker c) : encodeChar c = [c.toNat.toUInt8] := by
  rcases h with rfl | rfl <;> rfl

theorem IsMarker.goesOn_eq (h : IsMarker c) :
    goesOn c.toNat.toUInt8 = fun b => kindOf c (Char.ofNat b.toNat) := by
  funext b
  rcases h with rfl | rfl <;> rfl

/-- The length of a reference in bytes. -/
theorem IsMarker.referenceLength_eq (h : IsMarker c) (rest : Text) :
    referenceLength c.toNat.toUInt8 (encode rest) =
      (encode (rest.takeWhile (kindOf c))).length := by
  rw [referenceLength, h.goesOn_eq, takeWhile_encode fun _ => toNat_lt_of_kindOf c]

/-- Only markers have a byte that is one of theirs. -/
theorem isMarker_of_mem {b : UInt8} (hb : b ∈ encodeChar c) (h : b = dollar ∨ b = colon) :
    IsMarker c := by
  have hmem : b ∈ encode [c] := by rwa [encode_singleton]
  rcases h with rfl | rfl
  · exact .inl (List.mem_singleton.1 (mem_of_mem_encode (c := '$') (by decide) hmem)).symm
  · exact .inr (List.mem_singleton.1 (mem_of_mem_encode (c := ':') (by decide) hmem)).symm

end Kinds

section Groups

variable {pattern : Pattern} {captures : List Text}

/-- The place of a name leads to the number that stands with it. -/
theorem nameText?_eq_find? (groups : List (Text × Nat)) (word : Text) :
    nameText? groups captures word =
      some (((groups.find? (·.1 == word)).map
        fun group => groupText captures group.2).getD []) := by
  induction groups with
  | nil => rfl
  | cons group groups ih =>
    rw [nameText?] at ih ⊢
    rw [List.map_cons, List.map_cons, List.findIdx?_cons, List.find?_cons]
    by_cases hgroup : group.1 == word
    · rw [hgroup]
      rfl
    · rw [Bool.not_eq_true] at hgroup
      rw [hgroup]
      refine Eq.trans ?_ ih
      cases (groups.map (·.1)).findIdx? (· == word) <;> rfl

/-- The numbers of the parameters are those of their texts among the captures. -/
theorem find?_namedFrom {labels : List (Option Text)} (earlier : List Text) (word : Text)
    (hlength : labels.length = captures.length) :
    ((Pattern.namedFrom (earlier.length + 1) labels).find? (·.1 == word)).map
        (fun group => groupText (earlier ++ captures) group.2) =
      ((labels.zip captures).find? (·.1 == some word)).map (·.2) := by
  induction labels generalizing earlier captures with
  | nil => rfl
  | cons label labels ih =>
    cases captures with
    | nil => cases hlength
    | cons captured captures =>
      have hlater := ih (earlier ++ [captured]) (Nat.succ.inj hlength)
      rw [List.length_append, List.length_singleton, List.append_assoc, List.singleton_append]
        at hlater
      rw [List.zip_cons_cons]
      cases label with
      | none => exact hlater
      | some name =>
        rw [Pattern.namedFrom]
        by_cases hname : name = word
        · rw [List.find?_cons_of_pos (by simpa using hname),
            List.find?_cons_of_pos (by simpa using hname)]
          simp [groupText, atPosition?]
        · rw [List.find?_cons_of_neg (by simpa using hname),
            List.find?_cons_of_neg (by simpa using hname)]
          exact hlater

theorem nameText?_namedGroups (hlength : pattern.labels.length = captures.length) (word : Text) :
    nameText? pattern.namedGroups captures word = some (value pattern captures (.name word)) := by
  have hfind := find?_namedFrom [] word hlength
  rw [List.length_nil, List.nil_append] at hfind
  rw [nameText?_eq_find?, Pattern.namedGroups, hfind, value, atName?]

theorem positionText_eq {largest : Nat} (hlargest : captures.length ≤ largest) (digits : Text) :
    positionText largest captures digits = value pattern captures (.position digits) := by
  rw [positionText, value]
  cases Text.decimal? digits with
  | none => rfl
  | some n =>
    rw [Option.bind_some]
    dsimp only
    split
    · rfl
    · rw [atPosition?, if_neg (by omega), List.getElem?_eq_none (by omega), Option.getD_none]

/-- What a marker and the run behind it are filled with. -/
theorem referenceText?_eq {c : Char} {rest left : Text} {part : Part}
    (hlength : pattern.labels.length = captures.length) {largest : Nat}
    (hlargest : captures.length ≤ largest) (h : reference? c rest = some (part, left)) :
    referenceText? largest pattern captures c.toNat.toUInt8 (rest.takeWhile (kindOf c)) =
      some (value pattern captures part) := by
  obtain ⟨rfl | rfl, -, rfl, -⟩ := reference?_eq_some_iff.1 h
  · exact congrArg some (positionText_eq hlargest _)
  · exact nameText?_namedGroups hlength _

end Groups

section Pass

variable {largest : Nat} {pattern : Pattern} {captures : List Text} {template : Bytes}
variable {output : Text} {start place : Nat} {b : UInt8} {behind : Bytes}

theorem fillFrom?_of_end (h : template.length ≤ place) :
    fillFrom? largest pattern captures template output start place =
      (slice? template start template.length).map (output ++ ·) := by
  rw [fillFrom?, dif_neg (Nat.not_lt.2 h)]

theorem getElem_of_drop (h : template.drop place = b :: behind) :
    ∃ hplace : place < template.length,
      template[place] = b ∧ template.drop (place + 1) = behind := by
  have hplace : place < template.length := by
    by_contra hnot
    rw [List.drop_eq_nil_of_le (Nat.not_lt.1 hnot)] at h
    cases h
  rw [List.drop_eq_getElem_cons hplace] at h
  exact ⟨hplace, List.cons.inj h⟩

/-- A byte that begins no reference is passed. -/
theorem fillFrom?_of_passed (hdrop : template.drop place = b :: behind)
    (h : b ≠ dollar ∧ b ≠ colon ∨ referenceLength b behind = 0) :
    fillFrom? largest pattern captures template output start place =
      fillFrom? largest pattern captures template output start (place + 1) := by
  obtain ⟨hplace, hb, hbehind⟩ := getElem_of_drop hdrop
  rw [fillFrom?, dif_pos hplace]
  dsimp only
  rw [hb, hbehind, if_pos (by tauto)]

/-- The literal text and the text that a reference stands for are given out, and the pass
goes on behind the reference. -/
theorem fillFrom?_of_reference {reference literal text : Text}
    (hdrop : template.drop place = b :: behind) (hmarker : b = dollar ∨ b = colon)
    (hlength : referenceLength b behind ≠ 0)
    (hreference : slice? template (place + 1) (place + 1 + referenceLength b behind) =
      some reference)
    (hliteral : slice? template start place = some literal)
    (htext : referenceText? largest pattern captures b reference = some text) :
    fillFrom? largest pattern captures template output start place =
      fillFrom? largest pattern captures template (output ++ literal ++ text)
        (place + 1 + referenceLength b behind) (place + 1 + referenceLength b behind) := by
  obtain ⟨hplace, hb, hbehind⟩ := getElem_of_drop hdrop
  rw [fillFrom?, dif_pos hplace]
  dsimp only
  rw [hb, hbehind, if_neg (by tauto), hreference, hliteral]
  change (referenceText? largest pattern captures b reference).bind _ = _
  rw [htext]
  rfl

theorem fillFrom?_of_skipped {skipped : Bytes} (hdrop : template.drop place = skipped ++ behind)
    (h : ∀ b ∈ skipped, b ≠ dollar ∧ b ≠ colon) :
    fillFrom? largest pattern captures template output start place =
      fillFrom? largest pattern captures template output start (place + skipped.length) := by
  induction skipped generalizing place with
  | nil => rfl
  | cons b skipped ih =>
    obtain ⟨-, -, hnext⟩ := getElem_of_drop hdrop
    rw [fillFrom?_of_passed hdrop (.inl (h b List.mem_cons_self)),
      ih hnext fun other hother => h other (List.mem_cons_of_mem b hother), List.length_cons,
      Nat.add_assoc, Nat.add_comm 1]

/-- The bytes of a character that begins no reference are passed. -/
theorem fillFrom?_of_literal {c : Char} {rest : Text}
    (hdrop : template.drop place = encodeChar c ++ encode rest) (h : reference? c rest = none) :
    fillFrom? largest pattern captures template output start place =
      fillFrom? largest pattern captures template output start
        (place + (encodeChar c).length) := by
  by_cases hc : IsMarker c
  · have hlength : referenceLength c.toNat.toUInt8 (encode rest) = 0 := by
      rw [hc.referenceLength_eq, reference?_eq_none_iff.1 h hc]
      rfl
    rw [hc.encodeChar_eq] at hdrop ⊢
    exact fillFrom?_of_passed hdrop (.inr hlength)
  · refine fillFrom?_of_skipped hdrop fun b hb => ?_
    have hnone := mt (isMarker_of_mem hb) hc
    exact not_or.1 hnone

/-- A marker with a run of its kind is given out as what it refers to. -/
theorem fillFrom?_of_marker {c : Char} {run left done passed text : Text} (hc : IsMarker c)
    (hne : run ≠ []) (hrun : (run ++ left).takeWhile (kindOf c) = run)
    (htext : referenceText? largest pattern captures c.toNat.toUInt8 run = some text) :
    fillFrom? largest pattern captures (encode (done ++ passed ++ c :: (run ++ left))) output
        (encode done).length (encode (done ++ passed)).length =
      fillFrom? largest pattern captures (encode (done ++ passed ++ c :: (run ++ left)))
        (output ++ passed ++ text) (encode (done ++ passed ++ c :: run)).length
        (encode (done ++ passed ++ c :: run)).length := by
  have hmarker : c.toNat.toUInt8 = dollar ∨ c.toNat.toUInt8 = colon := by
    rcases hc with rfl | rfl
    · exact .inl rfl
    · exact .inr rfl
  have hdrop : (encode (done ++ passed ++ c :: (run ++ left))).drop
      (encode (done ++ passed)).length = c.toNat.toUInt8 :: encode (run ++ left) := by
    rw [drop_encode, encode_cons, hc.encodeChar_eq, List.singleton_append]
  have hlength : referenceLength c.toNat.toUInt8 (encode (run ++ left)) = (encode run).length := by
    rw [hc.referenceLength_eq, hrun]
  have hnext : (encode (done ++ passed ++ [c])).length = (encode (done ++ passed)).length + 1 := by
    rw [length_encode_append, encode_singleton, hc.encodeChar_eq, List.length_singleton]
  have hstop : (encode (done ++ passed ++ c :: run)).length =
      (encode (done ++ passed)).length + 1 + (encode run).length := by
    rw [List.append_cons, length_encode_append, hnext]
  have hreference := slice?_encode (done ++ passed ++ [c]) run left
  rw [← List.append_cons, hstop, hnext, List.append_assoc, List.cons_append, ← hlength]
    at hreference
  rw [hstop, ← hlength]
  refine fillFrom?_of_reference hdrop hmarker ?_ hreference (slice?_encode done passed _) htext
  rw [hlength]
  exact fun hnone => hne (encode_injective (List.eq_nil_of_length_eq_zero hnone))

/-- In the middle of a pass `done` has been given out and `passed` has not. What is left is
given out as the template that it is. -/
theorem fillFrom?_encode (hlength : pattern.labels.length = captures.length)
    (hlargest : captures.length ≤ largest) (rest done passed output : Text) :
    fillFrom? largest pattern captures (encode (done ++ passed ++ rest)) output
      (encode done).length (encode (done ++ passed)).length =
        some (output ++ passed ++ fill pattern rest captures) := by
  -- The places only move forward: a literal joins `passed`, and a reference ends it.
  induction rest using parts.induct generalizing done passed output with
  | case1 =>
    have hslice := slice?_encode done passed []
    rw [List.append_nil] at hslice ⊢
    rw [fillFrom?_of_end (Nat.le_refl _), hslice, fill, parts, List.flatMap_nil, List.append_nil]
    rfl
  | case2 c rest part left hfound ih =>
    obtain ⟨hc, hne, -, hleft⟩ := reference?_eq_some_iff.1 hfound
    have hrest : rest.takeWhile (kindOf c) ++ left = rest := by
      rw [hleft, List.takeWhile_append_dropWhile]
    have htext := referenceText?_eq hlength hlargest hfound
    have hlater := ih (done ++ passed ++ c :: rest.takeWhile (kindOf c)) []
      (output ++ passed ++ value pattern captures part)
    generalize hrun : rest.takeWhile (kindOf c) = run at hne hrest htext hlater
    subst hrest
    rw [fillFrom?_of_marker hc hne hrun htext, fill, parts_of_reference hfound, List.flatMap_cons,
      ← List.append_assoc]
    rwa [List.append_nil, List.append_nil, List.append_assoc (done ++ passed),
      List.cons_append] at hlater
  | case3 c rest hnone ih =>
    have hdrop : (encode (done ++ passed ++ c :: rest)).drop (encode (done ++ passed)).length =
        encodeChar c ++ encode rest := by
      rw [drop_encode, encode_cons]
    have hplace : (encode (done ++ passed)).length + (encodeChar c).length =
        (encode (done ++ (passed ++ [c]))).length := by
      rw [← List.append_assoc, length_encode_append (done ++ passed), encode_singleton]
    rw [fillFrom?_of_literal hdrop hnone, hplace, fill_cons_of_literal hnone]
    have hlater := ih done (passed ++ [c]) output
    simp only [List.append_assoc, List.singleton_append] at hlater ⊢
    exact hlater

end Pass

section Filling

variable {base path : Text} {captures : List Text}

/-- Parts that are well formed stand for what they are filled with, one for one. -/
theorem forall₂_standsFor_iff {pattern : Pattern} {segments : List Text} {split : List Part}
    {texts : List Text} (hsplit : ∀ part ∈ split, part.IsFormed)
    (hlabels : pattern.labels = segments.map Path.name?)
    (hlength : segments.length = captures.length) :
    List.Forall₂ (StandsFor segments captures) split texts ↔
      split.map (value pattern captures) = texts := by
  induction split generalizing texts with
  | nil => rw [List.forall₂_nil_left_iff, List.map_nil, eq_comm]
  | cons part split ih =>
    have hpart := hsplit part List.mem_cons_self
    have hlater := fun other hother => hsplit other (List.mem_cons_of_mem part hother)
    rw [List.forall₂_cons_left_iff, List.map_cons]
    constructor
    · rintro ⟨text, others, htext, hothers, rfl⟩
      rw [(standsFor_iff hpart hlabels hlength).1 htext, (ih hlater).1 hothers]
    · rintro rfl
      exact ⟨_, _, (standsFor_iff hpart hlabels hlength).2 rfl, (ih hlater).2 rfl, rfl⟩

/-- A template is read in one way, as the parts that are each the longest from left to
right, and filled with what the parts stand for. Two templates are filled apart if their
border is in no part. The pass over the bytes always ends with a text, and with that text. -/
theorem fill_eq_iff_isSplit (hcaptures : (Pattern.ofBase base).scan? path = some captures)
    (template : Text) :
    (∃! split, IsSplit template split) ∧
    (∀ split, IsSplit template split → split.flatMap Part.text = template) ∧
    (∀ text, fill (Pattern.ofBase base) template captures = text ↔
      ∃ split texts, IsSplit template split ∧
        List.Forall₂ (StandsFor ((Path.segments base).filter Path.isDynamic) captures)
          split texts ∧
        texts.flatten = text) ∧
    (∀ front back, front ++ back = template → ¬ CutsPart front back →
      fill (Pattern.ofBase base) template captures =
        fill (Pattern.ofBase base) front captures ++ fill (Pattern.ofBase base) back captures) ∧
    ∀ largest, captures.length ≤ largest →
      fillBytes? largest (Pattern.ofBase base) captures (encode template) =
        some (fill (Pattern.ofBase base) template captures) := by
  have hlabels : (Pattern.ofBase base).labels =
      ((Path.segments base).filter Path.isDynamic).map Path.name? :=
    Pattern.labels_ofSegments _
  rw [Pattern.scan?_eq_captures?, Pattern.ofBase] at hcaptures
  have hlength : ((Path.segments base).filter Path.isDynamic).length = captures.length :=
    (Pattern.isGreediest_of_captures? hcaptures).assigns.fit.length_eq
  have hparts := isSplit_parts template
  refine ⟨⟨_, hparts, fun split h => h.unique hparts⟩, fun split h => h.written, ?_, ?_, ?_⟩
  · intro text
    constructor
    · intro hfill
      exact ⟨_, _, hparts, (forall₂_standsFor_iff hparts.formed hlabels hlength).2 rfl, hfill⟩
    · rintro ⟨split, texts, hsplit, hstands, rfl⟩
      obtain rfl := isSplit_iff.1 hsplit
      rw [← (forall₂_standsFor_iff hparts.formed hlabels hlength).1 hstands]
      rfl
  · rintro front back rfl hborder
    exact fill_append_of_not_cutsPart hborder
  · intro largest hlargest
    have hgroups : (Pattern.ofBase base).labels.length = captures.length := by
      rw [hlabels, List.length_map, hlength]
    exact fillFrom?_encode hgroups hlargest template [] [] []

/-- A base path with two dynamic segments. -/
def noteBase : Text := "/p/:id/*"

/-- A template with markers behind each other and at its end, a number with leading zeros,
one that is too large for a machine word, and characters of more than one byte. -/
def noteTemplate : Text := "→$1é:id$002$:$18446744073709551617:id9_x$"

/-- What the dynamic segments have captured. -/
def noteCaptures : List Text := ["ü:id", "x/y"]

/-- What the template is filled with. -/
def noteText : Text := "→ü:idéü:idx/y$:$"

/-- What was captured is not read again. -/
theorem noteTemplate_fills :
    (Pattern.ofBase noteBase).scan? "/p/ü:id/x/y" = some noteCaptures ∧
      fill (Pattern.ofBase noteBase) noteTemplate noteCaptures = noteText ∧
      fillBytes? (2 ^ 64 - 1) (Pattern.ofBase noteBase) noteCaptures (encode noteTemplate) =
        some noteText := by
  have hcaptures : (Pattern.ofBase noteBase).scan? "/p/ü:id/x/y" = some noteCaptures := by
    decide +kernel
  have hfill : fill (Pattern.ofBase noteBase) noteTemplate noteCaptures = noteText := by
    decide +kernel
  obtain ⟨-, -, -, -, hbytes⟩ := fill_eq_iff_isSplit hcaptures noteTemplate
  exact ⟨hcaptures, hfill, by rw [hbytes _ (by decide), hfill]⟩

end Filling

end Template

end RuleGateway
