import RuleGateway.Json.Value
import RuleGateway.Number.Shortest
import RuleGateway.Settings.Format

/-!
# Settings in JSON

JSON settings are read strictly: a text is a string, a count is a whole number,
and only optional fields may be null. A duration is a string or a whole number
of seconds, and a value of any other kind is named in the fault.
-/

namespace RuleGateway

/-- How a fault names the kind of a JSON value. -/
def Json.Value.kindName : Json.Value → Text
  | .null => "null"
  | .bool value => "boolean \x60".toList ++ (if value then "true" else "false").toList ++ ['\x60']
  | .number (.whole value) =>
    "integer \x60".toList ++ (if value < 0 then ['-'] else []) ++ Text.ofNat value.natAbs ++
      ['\x60']
  | .number (.real value) => "floating point \x60".toList ++ Shortest.render value ++ ['\x60']
  | .text _ => "string"
  | .list _ => "sequence"
  | .object _ => "map"

/-- The duration that a JSON value is. -/
def Duration.ofJson : Json.Value → Except SettingsFault Duration
  | .text text => (Duration.parse text).mapError .duration
  | .number (.whole value) =>
    if value < 0 then .error .negativeDuration else .ok (.ofSecs value.natAbs)
  | value => .error (.notDuration value.kindName)

/-- How settings are read from JSON. -/
def Format.json : Format Json.Value where
  isNull
    | .null => true
    | _ => false
  text? := Json.Value.text?
  flag?
    | .bool value => some value
    | _ => none
  count?
    | .number (.whole value) => if value < 0 then none else some value.natAbs
    | _ => none
  duration := Duration.ofJson
  members? := Json.Value.members?
  items?
    | .list items => some items
    | _ => none

end RuleGateway
