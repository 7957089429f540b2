import RuleGateway.Settings.Format
import RuleGateway.Settings.Validation
import RuleGateway.Text.Quoted
import RuleGateway.Text.Utf8
import RuleGateway.Yaml.Reader

/-!
# Settings in YAML

YAML settings are read by what is expected: where a text is expected every
scalar is one, and where a number or a flag is expected only a plain scalar of
that form is. Where nothing is written, a text is empty, an optional value is
absent and a section has all its defaults.
-/

namespace RuleGateway

namespace Yaml

/-- The words for null. -/
def nullWords : List Text := ["", "~", "null", "Null", "NULL"]

/-- Whether the digits start with a zero that is not all of them. Such a scalar
is no number. -/
def hasLeadingZero (digits : Text) : Bool :=
  match digits with
  | '0' :: rest => !rest.isEmpty && rest.all Char.isDigit
  | _ => false

/-- An unsigned number: decimal, or with the mark of its base before it. -/
def unsigned? (text : Text) : Option Nat :=
  match text with
  | '0' :: 'x' :: digits => Text.number? 16 Text.hexDigit? digits
  | '0' :: 'o' :: digits => Text.number? 8 (fun c => (Text.digit? c).filter (· < 8)) digits
  | '0' :: 'b' :: digits => Text.number? 2 (fun c => (Text.digit? c).filter (· < 2)) digits
  | _ => if hasLeadingZero text then none else Text.decimal? text

/-- A number of at most 64 bits with an optional plus sign. -/
def count? (text : Text) : Option Nat :=
  let digits :=
    match text with
    | '+' :: rest => rest
    | _ => text
  (unsigned? digits).filter (· < Nat.pow 2 64)

/-- Whether the text is a minus sign before a number. -/
def isNegative (text : Text) : Bool :=
  match text with
  | '-' :: rest => (unsigned? rest).any fun n => 0 < n && n ≤ Nat.pow 2 63
  | _ => false

/-- Whether the text is zero with a minus sign. -/
def isMinusZero (text : Text) : Bool :=
  match text with
  | '-' :: rest => unsigned? rest == some 0
  | _ => false

end Yaml

/-- The duration that a scalar is: a plain number of seconds, or a text. -/
def Duration.ofYaml (node : Yaml.Node) : Except SettingsFault Duration :=
  match node.plain?.bind Yaml.count? with
  | some secs => .ok (.ofSecs secs)
  | none =>
    if node.plain?.any Yaml.isMinusZero then .ok (.ofSecs 0)
    else if node.plain?.any Yaml.isNegative then .error .negativeDuration
    else
      match node.text? with
      | some text => (Duration.parse text).mapError .duration
      | none => .error .wrongKind

/-- How settings are read from YAML. -/
def Format.yaml : Format Yaml.Node where
  isNull node := node.plain?.any Yaml.nullWords.contains
  text? := Yaml.Node.text?
  flag? node :=
    node.plain?.bind fun text =>
      if ["true".toList, "True".toList, "TRUE".toList].contains text then some true
      else if ["false".toList, "False".toList, "FALSE".toList].contains text then some false
      else none
  count? node := node.plain?.bind Yaml.count?
  duration := Duration.ofYaml
  members?
    | .mapping entries => entries.mapM fun (key, value) => key.text?.map (·, value)
    | .plain [] => some []
    | _ => none
  items? _ := none

/-- Why a settings file is not taken: its bytes are no text, it is not readable
as settings, or the settings have a problem. -/
inductive LoadError where
  | notText
  | unreadable
  | invalid (problem : SettingsProblem)
  deriving DecidableEq, Repr

/-- The wording of an error of a file, without its name. -/
def LoadError.message : LoadError → Text
  | notText => "Failed to read settings file"
  | unreadable => "Failed to parse settings file"
  | invalid problem => problem.message

/-- The settings that a file holds, for a process with the given environment. -/
def Settings.load (environment : Table Text) (bytes : Bytes) : Except LoadError Settings := do
  let text ← (Utf8.decode? bytes).elim (.error .notText) .ok
  let node ← (Yaml.parse? text).elim (.error .unreadable) .ok
  let settings ← (Settings.read .yaml node).mapError fun _ => .unreadable
  (settings.validate environment).mapError .invalid
  return settings

/-- What is said when the file at a path cannot be read. -/
def LoadError.unreadableFile (path : Text) : Text :=
  "Failed to read settings file: ".toList ++ Text.quoted path

end RuleGateway
