import RuleGateway.Settings.Basic

/-!
# Bindings

A deployment variable is looked up among the explicit bindings first and in the
environment of the process second. A variable with an empty value counts as
unset in both, which `Bindings.get?` decides once for all callers.
-/

namespace RuleGateway

/-- The variables of a deployment. -/
structure Bindings where
  explicit : Table Text := []
  environment : Table Text := []
  deriving DecidableEq, Repr

namespace Bindings

/-- The value of a variable. -/
def get? (bindings : Bindings) (key : Text) : Option Text :=
  ((bindings.explicit.get? key).bind Text.nonempty?).or
    ((bindings.environment.get? key).bind Text.nonempty?)

/-- The value of the first variable that is set. -/
def first? (bindings : Bindings) (keys : List Text) : Option Text :=
  keys.findSome? bindings.get?

/-- Whether crawlers are let in: only under the policy `allow`, in any case. -/
def allowsRobots (bindings : Bindings) : Bool :=
  match bindings.get? "ROBOTS_POLICY" with
  | some policy => Text.sameLetters policy "allow"
  | none => false

end Bindings

namespace DocumentSource

/-- The address of a file in a repository. -/
def repositoryUrl (repo branch path : Text) : Text :=
  "https://raw.githubusercontent.com/".toList ++ repo ++ '/' :: branch ++ '/' :: path

/-- The address of the rule document. An address given as a whole wins;
otherwise it is made of repository, branch and path, each of which comes from
the variables, from the settings or from its default. -/
def resolve (source : DocumentSource) (bindings : Bindings) : Text :=
  match (bindings.first? ["REDIRECTS_CONFIG_URL", "CONFIG_URL"]).or
      (source.url.bind Text.nonempty?) with
  | some url => url
  | none =>
    let part (keys : List Text) (own : Option Text) (default : Text) : Text :=
      ((bindings.first? keys).or own).getD default
    repositoryUrl
      (part ["REDIRECTS_CONFIG_REPO", "CONFIG_REPO"] source.repo "IGCyukira/i0c.cc")
      (part ["REDIRECTS_CONFIG_BRANCH", "CONFIG_BRANCH"] source.branch "data")
      (part ["REDIRECTS_CONFIG_PATH", "CONFIG_PATH"] source.path "redirects.json")

end DocumentSource

namespace Settings

/-- The bindings of the settings in a process with the given environment. -/
def bindingsIn (settings : Settings) (environment : Table Text) : Bindings :=
  { explicit := settings.bindings, environment }

/-- The address of the rule document in a process with the given environment. -/
def documentUrl (settings : Settings) (environment : Table Text) : Text :=
  settings.source.resolve (settings.bindingsIn environment)

end Settings

end RuleGateway
