import RuleGateway.Settings.Basic

/-!
# Reading settings

Settings are written in more than one format, and the formats differ in what
they take for a text, a flag or a number. A `Format` holds these decisions, and
the settings are read once for all formats: field by field in the order of the
document, and the first fault ends the reading. Fields that are not known are
passed over.
-/

namespace RuleGateway

/-- Why a value cannot be read: it is of the wrong kind, or it is no duration
for one of three reasons. -/
inductive SettingsFault where
  | wrongKind
  | duration (error : Duration.Unreadable)
  | negativeDuration
  | notDuration (found : Text)
  deriving DecidableEq, Repr

/-- The wording of a fault of a duration. -/
def SettingsFault.message? : SettingsFault → Option Text
  | wrongKind => none
  | duration error => some error.message
  | negativeDuration => some "duration cannot be negative"
  | notDuration found =>
    some ("invalid type: ".toList ++ found ++
      ", expected a duration like '90s', '1h30m' or a number of seconds".toList)

/-- How the values of a format are read. The members of a section are named,
or stand in the order of its fields where the format has lists for that. -/
structure Format (ν : Type) where
  isNull : ν → Bool
  text? : ν → Option Text
  flag? : ν → Option Bool
  count? : ν → Option Nat
  duration : ν → Except SettingsFault Duration
  members? : ν → Option (List (Text × ν))
  items? : ν → Option (List ν)

/-- The fields of a section: the name of each, and how its value is stored. -/
abbrev Section (ν σ : Type) := List (Text × (σ → ν → Except SettingsFault σ))

namespace Format

variable {ν σ : Type}

/-- A value that must be there. -/
def require {α : Type} : Option α → Except SettingsFault α
  | some value => .ok value
  | none => .error .wrongKind

/-- A text that must be there. -/
def text (format : Format ν) (value : ν) : Except SettingsFault Text := require (format.text? value)

/-- A value that may be null. -/
def optional {α : Type} (format : Format ν) (read : ν → Except SettingsFault α) (value : ν) :
    Except SettingsFault (Option α) :=
  if format.isNull value then .ok none else (read value).map some

/-- The section after named members. The keys that were met are kept, because a
field may be given only once. -/
def storeMembers (fields : Section ν σ) :
    List Text → σ → List (Text × ν) → Except SettingsFault σ
  | _, stored, [] => .ok stored
  | met, stored, (key, value) :: rest =>
    match fields.lookup key with
    | none => storeMembers fields met stored rest
    | some store =>
      if met.contains key then .error .wrongKind
      else do storeMembers fields (key :: met) (← store stored value) rest

/-- The section after members in the order of its fields. -/
def storeItems : Section ν σ → σ → List ν → Except SettingsFault σ
  | _, stored, [] => .ok stored
  | [], _, _ :: _ => .error .wrongKind
  | (_, store) :: fields, stored, value :: rest => do
    storeItems fields (← store stored value) rest

/-- A section whose fields are stored over their defaults. -/
def readSection (format : Format ν) (fields : Section ν σ) (defaults : σ) (value : ν) :
    Except SettingsFault σ :=
  match format.members? value, format.items? value with
  | some members, _ => storeMembers fields [] defaults members
  | none, some items => storeItems fields defaults items
  | none, none => .error .wrongKind

/-- A table of texts. -/
def readTable (format : Format ν) (value : ν) : Except SettingsFault (Table Text) := do
  let members ← require (format.members? value)
  members.foldlM
    (fun table member => do pure (table.set member.1 (← format.text member.2))) []

end Format

namespace DocumentSource

/-- The fields of a document source. -/
def fields {ν : Type} (format : Format ν) : Section ν DocumentSource :=
  let text := format.optional format.text
  [("url", fun source value => do pure { source with url := ← text value }),
    ("repo", fun source value => do pure { source with repo := ← text value }),
    ("branch", fun source value => do pure { source with branch := ← text value }),
    ("path", fun source value => do pure { source with path := ← text value }),
    ("cache_ttl", fun source value => do
      pure { source with cacheTtl := ← format.duration value })]

/-- The document source that a value is. -/
def read {ν : Type} (format : Format ν) : ν → Except SettingsFault DocumentSource :=
  format.readSection (fields format) {}

end DocumentSource

namespace BackendLimits

/-- The fields of backend limits. The number of redirects fits into 32 bits. -/
def fields {ν : Type} (format : Format ν) : Section ν BackendLimits :=
  [("timeout", fun limits value => do pure { limits with timeout := ← format.duration value }),
    ("max_redirects", fun limits value => do
      let count ← Format.require ((format.count? value).filter (· < Nat.pow 2 32))
      pure { limits with maxRedirects := count })]

/-- The backend limits that a value is. -/
def read {ν : Type} (format : Format ν) : ν → Except SettingsFault BackendLimits :=
  format.readSection (fields format) {}

end BackendLimits

namespace CanonicalPolicy

/-- The fields of a canonical policy. -/
def fields {ν : Type} (format : Format ν) : Section ν CanonicalPolicy :=
  let flag (value : ν) := Format.require (format.flag? value)
  [("enforce_https", fun policy value => do
      pure { policy with enforceHttps := ← flag value }),
    ("strip_www", fun policy value => do pure { policy with stripWww := ← flag value })]

/-- The canonical policy that a value is. -/
def read {ν : Type} (format : Format ν) : ν → Except SettingsFault CanonicalPolicy :=
  format.readSection (fields format) {}

end CanonicalPolicy

namespace MetricsSettings

/-- The fields of metrics settings. -/
def fields {ν : Type} (format : Format ν) : Section ν MetricsSettings :=
  [("address", fun metrics value => do pure { metrics with address := ← format.text value })]

/-- The metrics settings that a value is. -/
def read {ν : Type} (format : Format ν) : ν → Except SettingsFault MetricsSettings :=
  format.readSection (fields format) {}

end MetricsSettings

namespace Settings

/-- The fields of settings. -/
def fields {ν : Type} (format : Format ν) : Section ν Settings :=
  [("listen", fun settings value => do pure { settings with listen := ← format.text value }),
    ("redirects", fun settings value => do
      pure { settings with source := ← DocumentSource.read format value }),
    ("upstream", fun settings value => do
      pure { settings with backend := ← BackendLimits.read format value }),
    ("canonical", fun settings value => do
      pure { settings with canonical := ← CanonicalPolicy.read format value }),
    ("bindings", fun settings value => do
      pure { settings with bindings := ← format.readTable value }),
    ("metrics", fun settings value => do
      pure { settings with metrics := ← format.optional (MetricsSettings.read format) value })]

/-- The settings that a value is. -/
def read {ν : Type} (format : Format ν) : ν → Except SettingsFault Settings :=
  format.readSection (fields format) {}

end Settings

end RuleGateway
