import RuleGateway.Text.Basic

/-!
# YAML nodes

The part of YAML that settings files are written in: scalars, plain or quoted,
sequences, and mappings. A plain scalar keeps its text, because what it stands
for depends on what is expected in its place.
-/

namespace RuleGateway.Yaml

/-- A node of a document. -/
inductive Node where
  | plain (text : Text)
  | quoted (text : Text)
  | list (items : List Node)
  | mapping (entries : List (Node × Node))
  deriving Repr

/-- The node where nothing is written. -/
def Node.empty : Node := .plain []

/-- The text of a scalar. -/
def Node.text? : Node → Option Text
  | plain text => some text
  | quoted text => some text
  | list _ => none
  | mapping _ => none

/-- The text of a plain scalar. -/
def Node.plain? : Node → Option Text
  | plain text => some text
  | _ => none

end RuleGateway.Yaml
