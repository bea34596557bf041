import SearchQuery.Observation.Basic

/-!
# Metrics

The metrics of a run, summed up from its measurements: counters, the number of samples of a
duration, and the values of a distribution in the order they were recorded.
-/

namespace SearchQuery

inductive MetricValue where
  | counter (total : Nat)
  | samples (count : Nat)
  | values (values : List Nat)
  deriving DecidableEq

namespace MetricValue

/-- The sum of two recordings of one metric. -/
def combine : MetricValue → MetricValue → MetricValue
  | .counter a, .counter b => .counter (a + b)
  | .samples a, .samples b => .samples (a + b)
  | .values a, .values b => .values (a ++ b)
  | a, _ => a

end MetricValue

def Stage.name : Stage → String
  | .plan => "translate"
  | .format => "format"

namespace Measurement

def metric : Measurement → String
  | .planned _ => "elastic_query_translations_total"
  | .duration _ => "elastic_query_stage_seconds"
  | .facets _ => "elastic_query_facets_total"
  | .formatted _ => "elastic_query_requests_formatted_total"
  | .materialized .. => "elastic_query_materialized_total"
  | .items _ => "elastic_query_materialized_items"

/-- The labels, in the order of their names. -/
def labels : Measurement → List (String × String)
  | .planned outcome => [("outcome", outcome)]
  | .duration stage => [("stage", stage.name)]
  | .facets _ | .items _ => []
  | .formatted method => [("method", method)]
  | .materialized materializer status => [("materializer", materializer), ("status", status)]

/-- The name of the time series: the metric with its labels. -/
def series (m : Measurement) : String :=
  m.metric ++ "\x7b" ++ Text.join "," (m.labels.map fun label => label.1 ++ "=" ++ label.2) ++
    "\x7d"

def value : Measurement → MetricValue
  | .facets count => .counter count
  | .duration _ => .samples 1
  | .items count => .values [count]
  | .planned _ | .formatted _ | .materialized .. => .counter 1

end Measurement

/-- Add a recording to its series; the series stay sorted by name. -/
def recordMetric (series : String) (value : MetricValue) :
    List (String × MetricValue) → List (String × MetricValue)
  | [] => [(series, value)]
  | (s, v) :: rest =>
    if s = series then (s, v.combine value) :: rest
    else if series < s then (series, value) :: (s, v) :: rest
    else (s, v) :: recordMetric series value rest

def measurements (observations : List Observation) : List Measurement :=
  observations.filterMap fun
    | .measured m => some m
    | .event _ => none

/-- The metrics of a run, sorted by series. -/
def metrics (observations : List Observation) : List (String × MetricValue) :=
  (measurements observations).foldl (fun recorded m => recordMetric m.series m.value recorded) []

end SearchQuery
