import RuleGateway.Net.SocketAddress
import RuleGateway.Settings.Bindings
import RuleGateway.Url.Parser

/-!
# Valid settings

Settings that were read may still be of no use: an address that is none, a time
of zero, a limit out of bounds. `Settings.validate` reports the first such
problem in the order in which the settings are listed.
-/

namespace RuleGateway

/-- What is wrong with settings. -/
inductive SettingsProblem where
  | listenAddress (address : Text)
  | zeroCacheTtl
  | zeroTimeout
  | tooManyRedirects (count : Nat)
  | documentUrl (url : Text) (error : UrlError)
  | documentScheme (url : Text)
  | metricsAddress (address : Text)
  deriving DecidableEq, Repr

/-- How many redirects of a backend may be followed at most. -/
def BackendLimits.redirectLimit : Nat := 20

/-- The wording of a problem with its cause. -/
def SettingsProblem.message : SettingsProblem → Text
  | listenAddress address =>
    "Invalid listen address: ".toList ++ address ++ ": ".toList ++ SocketAddress.problem
  | zeroCacheTtl => "redirects.cache_ttl must be greater than zero"
  | zeroTimeout => "upstream.timeout must be greater than zero"
  | tooManyRedirects count =>
    "upstream.max_redirects must be at most ".toList ++ Text.ofNat BackendLimits.redirectLimit ++
      " (got ".toList ++ Text.ofNat count ++ [')']
  | documentUrl url error =>
    "Invalid redirects config URL: ".toList ++ url ++ ": ".toList ++ error.message
  | documentScheme url => "Redirects config URL must be http(s): ".toList ++ url
  | metricsAddress address =>
    "Invalid metrics address: ".toList ++ address ++ ": ".toList ++ SocketAddress.problem

namespace Settings

/-- The address to listen on. -/
def listenAddress (settings : Settings) : Except SettingsProblem SocketAddress :=
  match SocketAddress.parse? settings.listen with
  | some address => .ok address
  | none => .error (.listenAddress settings.listen)

/-- Whether the rule document can be fetched from its address. -/
def validateDocumentUrl (url : Text) : Except SettingsProblem Unit :=
  match Url.parse url with
  | .error error => .error (.documentUrl url error)
  | .ok parsed =>
    if parsed.scheme = "http".toList ∨ parsed.scheme = "https".toList then .ok ()
    else .error (.documentScheme url)

/-- The first problem of the settings in a process with the given environment,
if there is one. -/
def validate (settings : Settings) (environment : Table Text) : Except SettingsProblem Unit := do
  discard settings.listenAddress
  if settings.source.cacheTtl.isZero then throw .zeroCacheTtl
  if settings.backend.timeout.isZero then throw .zeroTimeout
  if BackendLimits.redirectLimit < settings.backend.maxRedirects then
    throw (.tooManyRedirects settings.backend.maxRedirects)
  validateDocumentUrl (settings.documentUrl environment)
  match settings.metrics with
  | some metrics =>
    if (SocketAddress.parse? metrics.address).isNone then throw (.metricsAddress metrics.address)
  | none => pure ()

end Settings

end RuleGateway
