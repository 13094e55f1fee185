/-
RouteAccess/Metrics/Basic.lean

The metrics of a service: what it has counted and timed since it started.  Each
metric has a name, a kind and label names; its samples are the single numbers
that are reported, under the name of the metric with an ending for its kind.

Label names are in alphabetical order everywhere, and so are the label values
of a row.
-/
import RouteAccess.Metrics.Histogram
import RouteAccess.Metrics.Tally
import RouteAccess.Number.Shortest
import RouteAccess.Text.Case

namespace RouteAccess

/-! ### Metrics and their names -/

/-- What kind of metric it is. -/
inductive MetricKind
  | info
  | counter
  | histogram
deriving DecidableEq, Repr

/-- What is measured. -/
inductive Metric
  | serviceInfo
  | requests
  | requestDurations
  | healthChecks
  | decisions
  | decisionDurations
  | ruleLoads
deriving DecidableEq, Repr

namespace Metric

/-- All metrics, in the order in which they are reported. -/
def all : List Metric :=
  [serviceInfo, requests, requestDurations, healthChecks, decisions, decisionDurations, ruleLoads]

/-- The name of a metric. -/
def name : Metric → String
  | serviceInfo => "service_info"
  | requests => "http_requests_total"
  | requestDurations => "http_request_duration_seconds"
  | healthChecks => "health_check_total"
  | decisions => "guard_decisions_total"
  | decisionDurations => "guard_decision_duration_seconds"
  | ruleLoads => "rule_loads_total"

/-- What a metric tells. -/
def about : Metric → String
  | serviceInfo => "Service information"
  | requests => "Total HTTP requests"
  | requestDurations => "HTTP request duration in seconds"
  | healthChecks => "Total health check requests"
  | decisions => "Total route guard decisions"
  | decisionDurations => "Route guard decision duration in seconds"
  | ruleLoads => "Total rule source loads"

/-- The kind of a metric. -/
def kind : Metric → MetricKind
  | serviceInfo => .info
  | requestDurations => .histogram
  | decisionDurations => .histogram
  | _ => .counter

/-- The names of the labels of a metric. -/
def labels : Metric → List String
  | serviceInfo => []
  | requests => ["endpoint", "method", "status_code"]
  | requestDurations => ["endpoint", "method"]
  | healthChecks => ["status"]
  | decisions => ["granted", "verb"]
  | decisionDurations => []
  | ruleLoads => ["status"]

/-- The metric of a name. -/
def ofName? (name : String) : Option Metric :=
  all.find? fun m => m.name = name

end Metric

/-! ### Samples -/

/-- One number that is reported. -/
structure Sample where
  name : String
  labels : List (String × String)
  value : Binary64

namespace Sample

/-- A count as a number. -/
def number (n : Nat) : Binary64 :=
  Binary64.ofInt n

/-- Labels with one more, at its place in the alphabet. -/
def withLabel (name value : String) : List (String × String) → List (String × String)
  | [] => [(name, value)]
  | (n, v) :: rest =>
    if name ≤ n then (name, value) :: (n, v) :: rest else (n, v) :: withLabel name value rest

/-- A bound as a label value. -/
def boundText : Binary64 → String
  | .infinite false => "+Inf"
  | x => x.text

/-- The samples of a tally. -/
def ofTally (m : Metric) (t : Tally) : List Sample :=
  t.rows.map fun r => ⟨m.name, m.labels.zip r.1, number r.2⟩

/-- The samples of a histogram: the counts up to the bounds, the count of all,
and the sum. -/
def ofHistogram (m : Metric) (row : List String) (h : Histogram) : List Sample :=
  let labels := m.labels.zip row
  h.upTo.map (fun b => ⟨m.name ++ "_bucket", withLabel "le" (boundText b.1) labels, number b.2⟩) ++
    [⟨m.name ++ "_count", labels, number h.count⟩, ⟨m.name ++ "_sum", labels, h.sum⟩]

end Sample

/-! ### Measuring -/

/-- What a service has counted and timed. -/
structure Metrics where
  service : String
  requests : Tally := {}
  requestDurations : HistogramTable := {}
  healthChecks : Tally := {}
  decisions : Tally := {}
  decisionDurations : Histogram := .empty
  ruleLoads : Tally := {}

namespace Metrics

/-- The version that the service reports. -/
def version : String := "1.0.0"

/-- The label value for a verb: in upper case, with a word for the empty one. -/
def verbLabel (verb : String) : String :=
  if verb = "" then "NONE" else Text.upper verb

/-- The label value for a truth value. -/
def flagLabel (granted : Bool) : String :=
  if granted then "true" else "false"

/-- An answered request. -/
def recordRequest (m : Metrics) (method endpoint status : String) (seconds : Binary64) : Metrics :=
  { m with
    requests := m.requests.add [endpoint, method, status]
    requestDurations := m.requestDurations.observe [endpoint, method] seconds }

/-- A health check. -/
def recordHealthCheck (m : Metrics) (status : String) : Metrics :=
  { m with healthChecks := m.healthChecks.add [status] }

/-- A decision. -/
def recordDecision (m : Metrics) (verb : String) (granted : Bool) (seconds : Binary64) : Metrics :=
  { m with
    decisions := m.decisions.add [flagLabel granted, verbLabel verb]
    decisionDurations := m.decisionDurations.observe seconds }

/-- An attempt to load rules. -/
def recordRuleLoad (m : Metrics) (status : String) : Metrics :=
  { m with ruleLoads := m.ruleLoads.add [status] }

/-! ### Reading off -/

/-- The samples of one metric. -/
def samplesOf (m : Metrics) : Metric → List Sample
  | .serviceInfo =>
    [⟨"service_info_info", [("service", m.service), ("version", version)], Sample.number 1⟩]
  | .requests => Sample.ofTally .requests m.requests
  | .requestDurations =>
    m.requestDurations.rows.flatMap fun r => Sample.ofHistogram .requestDurations r.1 r.2
  | .healthChecks => Sample.ofTally .healthChecks m.healthChecks
  | .decisions => Sample.ofTally .decisions m.decisions
  | .decisionDurations => Sample.ofHistogram .decisionDurations [] m.decisionDurations
  | .ruleLoads => Sample.ofTally .ruleLoads m.ruleLoads

/-- All samples. -/
def samples (m : Metrics) : List Sample :=
  Metric.all.flatMap m.samplesOf

/-- Whether the first label comes before the second. -/
def labelBefore (a b : String × String) : Bool :=
  decide (a.1 < b.1) || (a.1 == b.1 && decide (a.2 ≤ b.2))

/-- The value of the sample with a name and labels, in any order. -/
def value? (m : Metrics) (name : String) (labels : List (String × String)) : Option Binary64 :=
  let labels := labels.mergeSort labelBefore
  (m.samples.find? fun s => s.name = name && s.labels = labels).map (·.value)

/-! ### Timing by name -/

/-- Why a duration cannot be recorded. -/
inductive TimingFault
  /-- a label has a name that is no label's -/
  | reservedLabel
  /-- the labels are not those of the metric -/
  | wrongLabels
  /-- the metric is no histogram -/
  | notTimed
deriving DecidableEq, Repr

/-- The names that no label may have: they stand for the metrics and for what is
timed. -/
def reservedLabels : List String := ["self", "operation_name"]

/-- The label values of a metric, if exactly its labels are given. -/
def rowFor (metric : Metric) (labels : List (String × String)) : Except TimingFault (List String) :=
  let sorted := labels.mergeSort labelBefore
  if metric.labels ≠ [] && sorted.map (·.1) = metric.labels then .ok (sorted.map (·.2))
  else .error .wrongLabels

/-- The metrics with the duration of an operation under the name of a metric;
a name that no metric has is passed over.  A counter is not timed, but its row
is mentioned before that shows. -/
def recordTiming (m : Metrics) (name : String) (labels : List (String × String))
    (seconds : Binary64) : Metrics × Option TimingFault :=
  if labels.any fun l => reservedLabels.contains l.1 then (m, some .reservedLabel)
  else match Metric.ofName? name with
  | none => (m, none)
  | some metric =>
    if labels = [] then
      match metric with
      | .decisionDurations =>
        ({ m with decisionDurations := m.decisionDurations.observe seconds }, none)
      | .requestDurations => (m, some .wrongLabels)
      | _ => (m, some .notTimed)
    else
      match rowFor metric labels with
      | .error e => (m, some e)
      | .ok row =>
        match metric with
        | .requestDurations =>
          ({ m with requestDurations := m.requestDurations.observe row seconds }, none)
        -- the row is there before it shows that a counter is not timed
        | .requests => ({ m with requests := m.requests.mention row }, some .notTimed)
        | .healthChecks => ({ m with healthChecks := m.healthChecks.mention row }, some .notTimed)
        | .decisions => ({ m with decisions := m.decisions.mention row }, some .notTimed)
        | .ruleLoads => ({ m with ruleLoads := m.ruleLoads.mention row }, some .notTimed)
        | _ => (m, some .wrongLabels)

end Metrics

end RouteAccess
