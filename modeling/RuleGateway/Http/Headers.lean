import RuleGateway.Text.Utf8

/-!
# Header fields

Header fields of a message in order. A name may have several values; setting it
leaves one, adding to it keeps those that are there. Names are in small letters.
`valuesOf` is the view that the laws of this module are stated in: what each
operation does to the values of every name.
-/

namespace RuleGateway

/-- Header fields: names in small letters with the bytes of their values. -/
abbrev Headers := List (Text × Bytes)

namespace Headers

/-- The values of a name in order. -/
def valuesOf (headers : Headers) (name : Text) : List Bytes :=
  (headers.filter (·.1 == name)).map (·.2)

/-- The first value of a name. -/
def get? (headers : Headers) (name : Text) : Option Bytes := (headers.valuesOf name).head?

/-- The fields of all other names. -/
def remove (headers : Headers) (name : Text) : Headers := headers.filter (·.1 != name)

/-- The fields of all names but the given ones. -/
def removeAll (headers : Headers) (names : List Text) : Headers := names.foldl remove headers

/-- The fields with one more value of a name. -/
def append (headers : Headers) (name : Text) (value : Bytes) : Headers := headers ++ [(name, value)]

/-- The fields with a name that has exactly one value. -/
def insert (headers : Headers) (name : Text) (value : Bytes) : Headers :=
  (headers.remove name).append name value

/-- The fields with a name that has exactly the given values. -/
def replace (headers : Headers) (name : Text) (values : List Bytes) : Headers :=
  values.foldl (append · name ·) (headers.remove name)

@[simp] theorem valuesOf_remove (headers : Headers) (name other : Text) :
    (headers.remove name).valuesOf other = if other = name then [] else headers.valuesOf other := by
  unfold valuesOf remove
  rw [List.filter_filter]
  by_cases h : other = name
  · subst h
    simp
  · simp only [h, if_false]
    congr 2
    funext field
    by_cases hf : field.1 = other
    · simp [hf, h]
    · simp [hf]

@[simp] theorem valuesOf_append (headers : Headers) (name other : Text) (value : Bytes) :
    (headers.append name value).valuesOf other =
      headers.valuesOf other ++ if other = name then [value] else [] := by
  by_cases h : other = name
  · subst h
    simp [valuesOf, append]
  · simp [valuesOf, append, h, Ne.symm h]

@[simp] theorem valuesOf_insert (headers : Headers) (name other : Text) (value : Bytes) :
    (headers.insert name value).valuesOf other =
      if other = name then [value] else headers.valuesOf other := by
  by_cases h : other = name <;> simp [insert, h]

theorem valuesOf_removeAll (headers : Headers) (names : List Text) (other : Text) :
    (headers.removeAll names).valuesOf other =
      if other ∈ names then [] else headers.valuesOf other := by
  induction names generalizing headers with
  | nil => simp [removeAll]
  | cons name names ih =>
    have := ih (headers.remove name)
    simp only [removeAll, List.foldl_cons] at this ⊢
    rw [this]
    by_cases h : other = name <;> by_cases hm : other ∈ names <;> simp [h, hm]

theorem valuesOf_replace (headers : Headers) (name other : Text) (values : List Bytes) :
    (headers.replace name values).valuesOf other =
      if other = name then values else headers.valuesOf other := by
  have go (values : List Bytes) (start : Headers) :
      (values.foldl (append · name ·) start).valuesOf other =
        start.valuesOf other ++ if other = name then values else [] := by
    induction values generalizing start with
    | nil => simp
    | cons value values ih =>
      rw [List.foldl_cons, ih, valuesOf_append]
      by_cases h : other = name <;> simp [h]
  rw [replace, go]
  by_cases h : other = name <;> simp [h]

end Headers

namespace HeaderValue

/-- The text of a value that is made of printable ASCII and tabs. -/
def text? (value : Bytes) : Option Text :=
  if value.all fun b => (0x20 ≤ b && b ≤ 0x7E) || b == 0x09 then
    some (value.map fun b => Char.ofNat b.toNat)
  else none

/-- Whether the bytes may be a value: no control characters but the tab. -/
def isAllowed (value : Bytes) : Bool := value.all fun b => (0x20 ≤ b && b != 0x7F) || b == 0x09

/-- The value that a text is, in UTF-8. -/
def ofText? (text : Text) : Option Bytes :=
  let value := Utf8.encode text
  if isAllowed value then some value else none

end HeaderValue

/-- The text of the first value of a name, if that is readable. -/
def Headers.text? (headers : Headers) (name : Text) : Option Text :=
  (headers.get? name).bind HeaderValue.text?

end RuleGateway
