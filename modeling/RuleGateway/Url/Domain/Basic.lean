import RuleGateway.Percent
import RuleGateway.Url.Domain.Direction
import RuleGateway.Url.Domain.Label
import RuleGateway.Url.Domain.Mapping
import RuleGateway.Url.Domain.Punycode

/-!
# Domain names

The host of a web address is brought into one ASCII form: escapes decoded,
characters replaced by those that names have, letters and marks composed, and
labels with characters outside ASCII written in Punycode. A name with a
character that no host may contain, or with something that is no label, has no
such form.
-/

namespace RuleGateway.Domain

/-- The characters of ASCII that a host may not contain. -/
def isForbidden (c : Char) : Bool :=
  c.toNat ≤ 0x20 || c.toNat == 0x7F || "%#/:<>?@[\\]^|".toList.contains c

/-- The text as names have it, none if no name has one of its characters. -/
def normalize? (text : Text) : Option Text :=
  ((map? text).map compose).filter fun name => !name.any isForbidden

/-- The mark before a label in Punycode. -/
def punycodeMark : Text := "xn--"

/-- The label that a part of a name stands for. What is marked as Punycode must
be the form of a normal text outside ASCII. -/
def label? (part : Text) : Option Text := do
  let label ←
    match Text.after? punycodeMark part with
    | none => some part
    | some encoded => do
      if !Text.isAscii encoded then none
      let decoded ← Punycode.decode? encoded
      if Text.isAscii decoded ∨ decoded.contains '.' ∨ normalize? decoded ≠ some decoded then none
      some decoded
  if isLabel label then some label else none

/-- The ASCII form of a label. -/
def labelToAscii (label : Text) : Text :=
  if Text.isAscii label then label else punycodeMark ++ Punycode.encode label

/-- The ASCII form of a host name as written in an address. -/
def toAscii? (host : Text) : Option Text := do
  let name ← normalize? (← Utf8.decode? (Percent.decodeLoose host))
  let labels ← (Text.split '.' name).mapM label?
  if labels.any isMixed && !labels.all isOneWay then none
  some (Text.join '.' (labels.map labelToAscii))

end RuleGateway.Domain
