import SearchQuery.Operator

/-!
# Observations

What a run lets its operator see: events for the log and measurements for the metrics. They are
part of the result, in the order in which they happen.

`Traced α` is a computation with its observations. Those made before an error are kept, and
`Traced.result` forgets them: it commutes with `pure` and `bind`.
-/

namespace SearchQuery

/-- The stages whose duration is measured. -/
inductive Stage where
  | plan
  | format
  deriving DecidableEq

inductive Event where
  | planning (pathPrefix : String)
  | liftedScoring (op : BinaryOperator)
  | placedInQuery (criteria : Criteria)
  | placedInFilter (criteria : Criteria)
  | ignoredTerminal (method : String) (existing : Terminal)
  | extractedFacets (count : Nat)
  | planned (materializer : String) (facets : Nat)
  | planningFailed (error : Error)
  | formatting (documentType : String)
  | formatted (method : String) (uri : String)
  | materializing (materializer : String)
  | materializationFailed (error : Error)

inductive Measurement where
  /-- A query that was planned, by its outcome. -/
  | planned (outcome : String)
  | duration (stage : Stage)
  | facets (count : Nat)
  | formatted (method : String)
  | materialized (materializer status : String)
  | items (count : Nat)
  deriving DecidableEq

inductive Observation where
  | event (event : Event)
  | measured (measurement : Measurement)

/-! ## Traced computations -/

/-- A result together with the observations made on the way to it. -/
structure Traced (α : Type) where
  observations : List Observation
  result : Except Error α

namespace Traced

variable {α β : Type}

protected def pure (a : α) : Traced α := ⟨[], .ok a⟩

protected def bind (x : Traced α) (f : α → Traced β) : Traced β :=
  match x.result with
  | .ok a => ⟨x.observations ++ (f a).observations, (f a).result⟩
  | .error e => ⟨x.observations, .error e⟩

instance : Monad Traced where
  pure := Traced.pure
  bind := Traced.bind

def fail (e : Error) : Traced α := ⟨[], .error e⟩

/-- A computation that observes nothing. -/
def ofExcept (x : Except Error α) : Traced α := ⟨[], x⟩

def event (e : Event) : Traced Unit := ⟨[.event e], .ok ()⟩

def measure (m : Measurement) : Traced Unit := ⟨[.measured m], .ok ()⟩

/-- Add observations that depend on the result. -/
def finish (x : Traced α) (observe : Except Error α → List Observation) : Traced α :=
  ⟨x.observations ++ observe x.result, x.result⟩

@[simp] theorem result_pure (a : α) : (pure a : Traced α).result = .ok a := rfl

@[simp] theorem result_bind (x : Traced α) (f : α → Traced β) :
    (x >>= f).result = x.result >>= fun a => (f a).result := by
  show (Traced.bind x f).result = _
  unfold Traced.bind
  cases x.result <;> rfl

@[simp] theorem result_fail (e : Error) : (fail e : Traced α).result = .error e := rfl

@[simp] theorem result_ofExcept (x : Except Error α) : (ofExcept x).result = x := rfl

@[simp] theorem result_finish (x : Traced α) (observe : Except Error α → List Observation) :
    (x.finish observe).result = x.result := rfl

@[simp] theorem result_event (e : Event) : (event e).result = .ok () := rfl

@[simp] theorem result_measure (m : Measurement) : (measure m).result = .ok () := rfl

end Traced

end SearchQuery
