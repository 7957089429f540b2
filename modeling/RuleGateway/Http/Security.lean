import RuleGateway.Http.Headers

/-!
# Security headers

What the gateway decides about the security fields of its responses: policies
on framing and content that a backend set do not fit another host and are
dropped, and browsers are told to use HTTPS.
-/

namespace RuleGateway.Headers

/-- The policies that are dropped. -/
def foreignPolicies : List Text :=
  ["content-security-policy", "content-security-policy-report-only", "x-frame-options"]

/-- How long browsers keep to HTTPS: two years, for all subdomains. -/
def transportSecurity : Text := "max-age=63072000; includeSubDomains"

/-- The fields under the gateway's own security policy. -/
def secured (headers : Headers) : Headers :=
  (headers.removeAll foreignPolicies).insert "strict-transport-security"
    (Utf8.encode transportSecurity)

end RuleGateway.Headers
