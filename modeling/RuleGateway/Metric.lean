import RuleGateway.Table

/-!
# Metrics

What the gateway counts: requests by outcome and status, loads of the rule
document by where it came from, requests to backends by status, and redirects
followed per proxied request. A `Measurement` is one thing that happened; its
samples are what is recorded for it.
-/

namespace RuleGateway

/-- How a request was answered. -/
inductive Outcome where
  | canonical
  | favicon
  | robots
  | sitemap
  | redirect
  | proxy
  | notFound
  | noSlots
  | error
  deriving DecidableEq, Repr

/-- The word for an outcome. -/
def Outcome.name : Outcome → Text
  | canonical => "canonical"
  | favicon => "favicon"
  | robots => "robots"
  | sitemap => "sitemap"
  | redirect => "redirect"
  | proxy => "proxy"
  | notFound => "not_found"
  | noSlots => "no_slots"
  | error => "error"

/-- Where a rule document came from. -/
inductive Provenance where
  | memory
  | cache
  | network
  | stale
  deriving DecidableEq, Repr

/-- The word for where a document came from. -/
def Provenance.name : Provenance → Text
  | memory => "memory"
  | cache => "cache"
  | network => "network"
  | stale => "stale"

/-- The quantities that are recorded. -/
inductive Metric where
  | requests
  | requestDuration
  | documentLoads
  | backendRequests
  | redirectsFollowed
  deriving DecidableEq, Repr

namespace Metric

/-- All metrics. -/
def all : List Metric :=
  [requests, requestDuration, documentLoads, backendRequests, redirectsFollowed]

/-- The name under which a metric is served. -/
def name : Metric → Text
  | requests => "edgeroute_requests_total"
  | requestDuration => "edgeroute_request_duration_seconds"
  | documentLoads => "edgeroute_config_loads_total"
  | backendRequests => "edgeroute_upstream_requests_total"
  | redirectsFollowed => "edgeroute_upstream_redirects_followed"

/-- The kind of a metric: a count, or the spread of a value. -/
def kind : Metric → Text
  | requests | documentLoads | backendRequests => "counter"
  | requestDuration | redirectsFollowed => "histogram"

/-- What a metric tells. -/
def description : Metric → Text
  | requests => "Total number of inbound requests by outcome"
  | requestDuration => "Inbound request duration in seconds"
  | documentLoads => "Rule document loads by the source that satisfied them"
  | backendRequests => "Requests sent to proxy upstreams"
  | redirectsFollowed => "Redirect hops followed per proxied request"

end Metric

/-- A recorded value with the labels that it is recorded under, in the order of
their names. -/
structure Sample where
  metric : Metric
  labels : Table Text
  value : Nat
  deriving DecidableEq, Repr

/-- Something that happened. -/
inductive Measurement where
  | request (outcome : Outcome) (status : Nat)
  | documentLoad (source : Option Provenance)
  | backendReply (status : Nat)
  | redirectsFollowed (count : Nat)
  deriving DecidableEq, Repr

/-- What is recorded for a measurement. No time passes in the gateway itself, so
the time of a request is zero. -/
def Measurement.samples : Measurement → List Sample
  | request outcome status =>
    [⟨.requests, [("outcome", outcome.name), ("status", Text.ofNat status)], 1⟩,
      ⟨.requestDuration, [("outcome", outcome.name)], 0⟩]
  | documentLoad source =>
    [⟨.documentLoads, [("source", (source.map Provenance.name).getD "none")], 1⟩]
  | backendReply status => [⟨.backendRequests, [("status", Text.ofNat status)], 1⟩]
  | redirectsFollowed count => [⟨.redirectsFollowed, [], count⟩]

end RuleGateway
