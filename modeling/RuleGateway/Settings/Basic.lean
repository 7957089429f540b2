import RuleGateway.Duration
import RuleGateway.Table

/-!
# Settings

What an operator can set: where the gateway listens, where its rule document is
and how long a copy of it is used, how backends are waited for, which origin is
the canonical one, the deployment variables, and where metrics are served. Every
field has a default, so empty settings are complete.
-/

namespace RuleGateway

/-- Where the rule document is, and for how long a copy of it stays fresh. -/
structure DocumentSource where
  url : Option Text := none
  repo : Option Text := none
  branch : Option Text := none
  path : Option Text := none
  cacheTtl : Duration := .ofSecs 3600
  deriving DecidableEq, Repr

/-- How long one proxied request may take, and how many redirects of its
backend are followed. -/
structure BackendLimits where
  timeout : Duration := .ofSecs 30
  maxRedirects : Nat := 5
  deriving DecidableEq, Repr

/-- What makes an origin canonical. -/
structure CanonicalPolicy where
  enforceHttps : Bool := true
  stripWww : Bool := true
  deriving DecidableEq, Repr

/-- Where metrics are served. -/
structure MetricsSettings where
  address : Text := "0.0.0.0:9090"
  deriving DecidableEq, Repr

/-- The settings of a gateway. -/
structure Settings where
  listen : Text := "0.0.0.0:8080"
  source : DocumentSource := {}
  backend : BackendLimits := {}
  canonical : CanonicalPolicy := {}
  bindings : Table Text := []
  metrics : Option MetricsSettings := none
  deriving DecidableEq, Repr

end RuleGateway
