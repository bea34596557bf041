import Mathlib.Data.List.Forall2
import Mathlib.Data.List.Induction
import Mathlib.Data.List.Nodup
import SearchQuery.Proofs.Plan.Contribution

/-!
# What the aggregates of a projection ask for

Each call on the group asks for one thing: the size of the group, a statistic of a field, or the
number of documents that satisfy a criteria.

* `Grouping.AsksFor`: what a call asks for.
* `bind_asks`: a projection that is bound reads what its calls ask for, in their order, and exactly
  that is collected.
* `Aggregates.Collects`: what is collected of a list of asks. Fields are collected once; of criteria
  that are the same, the first one is.
* `aggregation_asks`: the facets of an aggregate query are those of what its calls ask for.
-/

namespace SearchQuery

/-- What one aggregate asks for. -/
inductive Ask where
  /-- The number of documents of a group. -/
  | groups
  /-- A statistic of a field over the documents of a group. -/
  | ofField (path : String) (s : Statistic)
  /-- The number of documents of a group that satisfy a criteria. -/
  | matching (c : Criteria)

/-- The name of the facet that the projection reads, and the statistic that it reads there. -/
def Ask.read : Ask → String × Statistic
  | .groups => (groupKeyFacet, .count)
  | .ofField path s => (path, s)
  | .matching c => (c.display, .count)

/-- Collect what is asked for. -/
def Aggregates.ask (a : Aggregates) : Ask → Aggregates
  | .groups => a.addPlainCount
  | .ofField path _ => a.addValueField path
  | .matching c => a.addPredicate c

/-! ### Calls and reads -/

namespace ProjectionNode

mutual

/-- The aggregates that a projection reads, from left to right. -/
def reads : ProjectionNode → List (String × Statistic)
  | .aggregate facet s => [(facet, s)]
  | .member target _ => reads target
  | .binary _ left right => reads left ++ reads right
  | .unary _ operand => reads operand
  | .call _ args => readsOfArgs args
  | .object members => readsOfMembers members
  | .constant _ | .document _ | .field .. | .metadata _ | .groupKey => []

def readsOfArgs : List ProjectionNode → List (String × Statistic)
  | [] => []
  | node :: rest => reads node ++ readsOfArgs rest

def readsOfMembers : List (String × ProjectionNode) → List (String × Statistic)
  | [] => []
  | (_, node) :: rest => reads node ++ readsOfMembers rest

end

end ProjectionNode

namespace Grouping

mutual

/-- The calls on the group, from left to right: a method with its arguments. -/
def calls (g : Grouping) : Expression → List (String × List Expression)
  | .binary _ left right => calls g left ++ calls g right
  | .unary _ operand => calls g operand
  | .call method args =>
    match args with
    | [] => []
    | first :: rest =>
      if g.isGroup first then [(method, rest)] else calls g first ++ callsOfArgs g rest
  | .construct members => callsOfMembers g members
  | .constant _ | .member .. | .parameter _ | .hitField _ | .lambda .. | .source _ => []

def callsOfArgs (g : Grouping) : List Expression → List (String × List Expression)
  | [] => []
  | e :: rest => calls g e ++ callsOfArgs g rest

def callsOfMembers (g : Grouping) : List (String × Expression) → List (String × List Expression)
  | [] => []
  | (_, e) :: rest => calls g e ++ callsOfMembers g rest

end

/-- What a call on the group asks for. A predicate that nothing is left of counts the group. -/
inductive AsksFor (g : Grouping) : String × List Expression → Ask → Prop
  | plainCount {method} (hmethod : Statistic.ofMethod? method = some .count) :
    AsksFor g (method, []) .groups
  | countOfAll {method predicate} {low : Lowered}
    (hmethod : Statistic.ofMethod? method = some .count)
    (hlow : (predicate.lowerLambda g.mapping g.pathPrefix none).result = .ok low)
    (hnop : low.criteria.isNop = true) (hquery : low.query = none) :
    AsksFor g (method, [predicate]) .groups
  | countWhere {method predicate c} (hmethod : Statistic.ofMethod? method = some .count)
    (hlow : (predicate.lowerLambda g.mapping g.pathPrefix none).result = .ok ⟨c, none⟩)
    (hfilter : c.IsFilter) : AsksFor g (method, [predicate]) (.matching c)
  | statistic {method selector x body path last s}
    (hmethod : Statistic.ofMethod? method = some s) (hcount : s ≠ .count)
    (hselector : selector.lambda? = some (x, body))
    (hpath : body.memberPath? g.mapping g.pathPrefix = some (path, last)) :
    AsksFor g (method, [selector]) (.ofField path s)

/-! ### Binding -/

/-- From one collection to another: what the calls ask for is added and read. -/
def Asks (g : Grouping) (a a' : Aggregates) (called : List (String × List Expression))
    (reads : List (String × Statistic)) : Prop :=
  ∃ asks, List.Forall₂ g.AsksFor called asks ∧ a' = asks.foldl Aggregates.ask a ∧
    reads = asks.map Ask.read

variable {g : Grouping} {a a' b : Aggregates} {node : ProjectionNode}
  {called called' : List (String × List Expression)} {reads reads' : List (String × Statistic)}

namespace Asks

theorem nil (g : Grouping) (a : Aggregates) : g.Asks a a [] [] := ⟨[], .nil, rfl, rfl⟩

theorem one {call : String × List Expression} {ask : Ask} (h : g.AsksFor call ask) :
    g.Asks a (a.ask ask) [call] [ask.read] :=
  ⟨[ask], .cons h .nil, rfl, rfl⟩

theorem append (h : g.Asks a b called reads) (h' : g.Asks b a' called' reads') :
    g.Asks a a' (called ++ called') (reads ++ reads') := by
  obtain ⟨asks, hcalled, rfl, rfl⟩ := h
  obtain ⟨asks', hcalled', rfl, rfl⟩ := h'
  exact ⟨asks ++ asks', List.rel_append hcalled hcalled', (List.foldl_append ..).symm,
    (List.map_append ..).symm⟩

end Asks

theorem isFilter_of_lowerLambda {m : FieldMapping} {pathPrefix : String} {predicate : Expression}
    {low : Lowered} (h : (predicate.lowerLambda m pathPrefix none).result = .ok low)
    (hnop : low.criteria.isNop = false) (hquery : low.criteria.isQueryContext = false) :
    low.criteria.IsFilter := by
  obtain ⟨f, s, hf, hs, rfl⟩ := Expression.lowerLambda_eq_ok_iff.1 h
  have hshaped := Formula.split_shaped (Expression.lambdaFormula_wellFormed hf) hs
  refine hshaped.isFilter hquery ?_
  simpa [Split.onto] using hnop

theorem bindCount_asks {method : String} {predicate : Expression}
    (hmethod : Statistic.ofMethod? method = some .count)
    (h : (g.bindCount a predicate).result = .ok (node, a')) :
    g.Asks a a' [(method, [predicate])] node.reads := by
  obtain ⟨low, hlow, h⟩ := Traced.bind_eq_ok.1 h
  split_ifs at h with hplain hscoring
  · cases h
    rw [Bool.and_eq_true, Option.isNone_iff_eq_none] at hplain
    exact .one (.countOfAll hmethod hlow hplain.1 hplain.2)
  · cases h
  · cases h
    rw [Bool.or_eq_true, not_or, Bool.not_eq_true, Bool.not_eq_true] at hscoring
    obtain ⟨c, query⟩ := low
    have hquery : query = none := by simpa using hscoring.2
    subst hquery
    have hnop : c.isNop = false := by simpa using hplain
    exact .one (.countWhere hmethod hlow (isFilter_of_lowerLambda hlow hnop hscoring.1))

theorem bindStatistic_asks {method : String} {s : Statistic} {selector : Expression}
    (hmethod : Statistic.ofMethod? method = some s) (hcount : s ≠ .count)
    (h : g.bindStatistic a s selector = .ok (node, a')) :
    g.Asks a a' [(method, [selector])] node.reads := by
  unfold bindStatistic at h
  split at h
  · rename_i x body hselector
    split at h
    · rename_i path last hpath
      cases h
      exact .one (.statistic hmethod hcount hselector hpath)
    · cases h
  · cases h

theorem bindAggregate_asks {method : String} {args : List Expression}
    (h : (g.bindAggregate a method args).result = .ok (node, a')) :
    g.Asks a a' [(method, args)] node.reads := by
  unfold bindAggregate at h
  split at h
  · cases h
  · rename_i hmethod
    cases h
    exact .one (.plainCount hmethod)
  · rename_i predicate hmethod
    exact bindCount_asks hmethod h
  · rename_i s selector hcount hmethod
    refine bindStatistic_asks hmethod ?_ h
    rintro rfl
    exact hcount rfl
  · cases h

mutual

theorem bind_asks {g : Grouping} {a a' : Aggregates} {node : ProjectionNode} :
    (e : Expression) → (g.bind a e).result = .ok (node, a') →
      g.Asks a a' (g.calls e) node.reads
  | .constant _, h => by
    rw [bind] at h
    cases h
    exact .nil g a
  | .member target m, h => by
    rw [bind] at h
    split_ifs at h <;> cases h
    exact .nil g a
  | .binary op left right, h => by
    rw [bind] at h
    obtain ⟨⟨l, a₁⟩, hl, h⟩ := Traced.bind_eq_ok.1 h
    obtain ⟨⟨r, a₂⟩, hr, h⟩ := Traced.bind_eq_ok.1 h
    cases h
    exact (bind_asks left hl).append (bind_asks right hr)
  | .unary op operand, h => by
    rw [bind] at h
    obtain ⟨⟨o, a₁⟩, ho, h⟩ := Traced.bind_eq_ok.1 h
    cases h
    have hoperand := bind_asks operand ho
    exact hoperand
  | .call method [], h => by
    rw [bind] at h
    cases h
    exact .nil g a
  | .call method (first :: rest), h => by
    rw [bind] at h
    rw [calls]
    split_ifs at h ⊢
    · exact bindAggregate_asks h
    · obtain ⟨⟨l, a₁⟩, hl, h⟩ := Traced.bind_eq_ok.1 h
      obtain ⟨⟨r, a₂⟩, hr, h⟩ := Traced.bind_eq_ok.1 h
      cases h
      exact (bind_asks first hl).append (bindArgs_asks rest hr)
  | .construct members, h => by
    rw [bind] at h
    obtain ⟨⟨nodes, a₁⟩, hnodes, h⟩ := Traced.bind_eq_ok.1 h
    cases h
    exact bindMembers_asks members hnodes
  | .parameter _, h | .hitField _, h | .lambda _ _, h | .source _, h => by
    rw [bind] at h
    cases h

theorem bindArgs_asks {g : Grouping} {a a' : Aggregates} {nodes : List ProjectionNode} :
    (args : List Expression) → (g.bindArgs a args).result = .ok (nodes, a') →
      g.Asks a a' (g.callsOfArgs args) (ProjectionNode.readsOfArgs nodes)
  | [], h => by
    cases h
    exact .nil g a
  | e :: rest, h => by
    rw [bindArgs] at h
    obtain ⟨⟨n, a₁⟩, he, h⟩ := Traced.bind_eq_ok.1 h
    obtain ⟨⟨ns, a₂⟩, hrest, h⟩ := Traced.bind_eq_ok.1 h
    cases h
    exact (bind_asks e he).append (bindArgs_asks rest hrest)

theorem bindMembers_asks {g : Grouping} {a a' : Aggregates}
    {nodes : List (String × ProjectionNode)} :
    (members : List (String × Expression)) →
      (g.bindMembers a members).result = .ok (nodes, a') →
      g.Asks a a' (g.callsOfMembers members) (ProjectionNode.readsOfMembers nodes)
  | [], h => by
    cases h
    exact .nil g a
  | (name, e) :: rest, h => by
    rw [bindMembers] at h
    obtain ⟨⟨n, a₁⟩, he, h⟩ := Traced.bind_eq_ok.1 h
    obtain ⟨⟨ns, a₂⟩, hrest, h⟩ := Traced.bind_eq_ok.1 h
    cases h
    exact (bind_asks e he).append (bindMembers_asks rest hrest)

end

end Grouping

/-! ### Collecting -/

namespace Criteria

theorem same_iff {c d : Criteria} : c.same d = true ↔ c.canonical = d.canonical := beq_iff_eq

end Criteria

namespace Aggregates

variable {a : Aggregates} {asks : List Ask}

/-- What was collected of a list of asks. -/
structure Collects (a : Aggregates) (asks : List Ask) : Prop where
  plainCount : a.plainCount = true ↔ .groups ∈ asks
  valueFields : ∀ path, path ∈ a.valueFields ↔ ∃ s, .ofField path s ∈ asks
  valueFields_nodup : a.valueFields.Nodup
  predicates : ∀ c ∈ a.predicates, .matching c ∈ asks
  covers : ∀ c, .matching c ∈ asks → ∃ d ∈ a.predicates, d.same c = true
  predicates_nodup : a.predicates.Nodup
  eq_of_same : ∀ c ∈ a.predicates, ∀ d ∈ a.predicates, c.same d = true → c = d

theorem collects_none : Aggregates.none.Collects [] where
  plainCount := by simp [Aggregates.none]
  valueFields := by simp [Aggregates.none]
  valueFields_nodup := List.nodup_nil
  predicates := by simp [Aggregates.none]
  covers := by simp
  predicates_nodup := List.nodup_nil
  eq_of_same := by simp [Aggregates.none]

theorem Collects.addPlainCount (h : a.Collects asks) :
    a.addPlainCount.Collects (asks ++ [.groups]) where
  plainCount := by simp [Aggregates.addPlainCount]
  valueFields path := by simpa [Aggregates.addPlainCount] using h.valueFields path
  valueFields_nodup := h.valueFields_nodup
  predicates c hc := List.mem_append_left _ (h.predicates c hc)
  covers c hc := h.covers c (by simpa using hc)
  predicates_nodup := h.predicates_nodup
  eq_of_same := h.eq_of_same

theorem Collects.addValueField (h : a.Collects asks) (path : String) (s : Statistic) :
    (a.addValueField path).Collects (asks ++ [.ofField path s]) where
  plainCount := by simpa [Aggregates.addValueField] using h.plainCount
  valueFields path' := by
    rw [Aggregates.addValueField, Text.mem_pushNew, h.valueFields path']
    simp [exists_or]
  valueFields_nodup := by
    show (Text.pushNew a.valueFields path).Nodup
    unfold Text.pushNew
    split_ifs with hin
    · exact h.valueFields_nodup
    · exact List.nodup_append.2 ⟨h.valueFields_nodup, List.nodup_singleton path,
        fun p hp q hq heq => hin (by rwa [← List.mem_singleton.1 hq, ← heq])⟩
  predicates c hc := List.mem_append_left _ (h.predicates c hc)
  covers c hc := h.covers c (by simpa using hc)
  predicates_nodup := h.predicates_nodup
  eq_of_same := h.eq_of_same

theorem Collects.addPredicate (h : a.Collects asks) (c : Criteria) :
    (a.addPredicate c).Collects (asks ++ [.matching c]) := by
  have hcovers : ∀ d, .matching d ∈ asks ++ [.matching c] → .matching d ∈ asks ∨ d = c := by
    simp
  unfold Aggregates.addPredicate
  split_ifs with hin
  · obtain ⟨d, hd, hsame⟩ := List.any_eq_true.1 hin
    refine ⟨by simpa using h.plainCount, fun path => by simpa using h.valueFields path,
      h.valueFields_nodup, fun c hc => List.mem_append_left _ (h.predicates c hc), fun e he => ?_,
      h.predicates_nodup, h.eq_of_same⟩
    rcases hcovers e he with he | rfl
    · exact h.covers e he
    · exact ⟨d, hd, hsame⟩
  · have hnew : ∀ d ∈ a.predicates, d.same c ≠ true := by simpa using hin
    have hmem : ∀ d, d ∈ a.predicates ++ [c] ↔ d ∈ a.predicates ∨ d = c := by simp
    refine ⟨by simpa using h.plainCount, fun path => by simpa using h.valueFields path,
      h.valueFields_nodup, fun d hd => ?_, fun e he => ?_, ?_, fun d hd e he hsame => ?_⟩
    · rcases (hmem d).1 hd with hd | rfl
      · exact List.mem_append_left _ (h.predicates d hd)
      · exact List.mem_append_right _ (List.mem_singleton_self _)
    · rcases hcovers e he with he | rfl
      · obtain ⟨d, hd, hsame⟩ := h.covers e he
        exact ⟨d, List.mem_append_left _ hd, hsame⟩
      · exact ⟨e, List.mem_append_right _ (List.mem_singleton_self e), Criteria.same_iff.2 rfl⟩
    · refine List.nodup_append.2 ⟨h.predicates_nodup, List.nodup_singleton c, fun d hd e he => ?_⟩
      rw [List.mem_singleton.1 he]
      rintro rfl
      exact hnew d hd (Criteria.same_iff.2 rfl)
    · rcases (hmem d).1 hd with hold | rfl <;> rcases (hmem e).1 he with hold' | rfl
      · exact h.eq_of_same d hold e hold' hsame
      · exact absurd hsame (hnew d hold)
      · exact absurd (Criteria.same_iff.2 (Criteria.same_iff.1 hsame).symm) (hnew e hold')
      · rfl

theorem Collects.ask (h : a.Collects asks) (ask : Ask) : (a.ask ask).Collects (asks ++ [ask]) := by
  cases ask with
  | groups => exact h.addPlainCount
  | ofField path s => exact h.addValueField path s
  | matching c => exact h.addPredicate c

theorem collects_foldl (asks : List Ask) :
    (asks.foldl Aggregates.ask Aggregates.none).Collects asks := by
  induction asks using List.reverseRecOn with
  | nil => exact collects_none
  | append_singleton asks ask ih =>
    rw [List.foldl_append]
    exact ih.ask ask

end Aggregates

/-! ### Aggregate queries -/

/-- Each ask is that of some call. -/
theorem Grouping.exists_call {g : Grouping} {called : List (String × List Expression)}
    {asks : List Ask} (h : List.Forall₂ g.AsksFor called asks) {ask : Ask} (hask : ask ∈ asks) :
    ∃ call ∈ called, g.AsksFor call ask := by
  induction h with
  | nil => cases hask
  | cons hfirst _ ih =>
    rcases List.mem_cons.1 hask with rfl | hask
    · exact ⟨_, List.mem_cons_self, hfirst⟩
    · obtain ⟨call, hcall, hasks⟩ := ih hask
      exact ⟨call, List.mem_cons_of_mem _ hcall, hasks⟩

namespace AggregateQuery

variable {q : AggregateQuery} {m : FieldMapping} {pathPrefix : String} {aggregation : Aggregation}

/-- The facets of an aggregate query are those of what the calls on the group ask for, and its
projection reads just that. -/
theorem aggregation_asks (h : (q.aggregation m pathPrefix).result = .ok aggregation) :
    ∃ x body asks, q.selector.lambda? = some (x, body) ∧
      List.Forall₂ (Grouping.AsksFor ⟨m, pathPrefix, x⟩)
        (Grouping.calls ⟨m, pathPrefix, x⟩ body) asks ∧
      aggregation.projector.node.reads = asks.map Ask.read ∧
      aggregation.facets = Aggregates.limitFacets q.size
        ((asks.foldl Aggregates.ask Aggregates.none).facets aggregation.projector.key) := by
  obtain ⟨key, -, h⟩ := Traced.bind_eq_ok.1 h
  split at h
  · rename_i x body hselector
    obtain ⟨⟨node, aggregates⟩, hbind, h⟩ := Traced.bind_eq_ok.1 h
    cases h
    obtain ⟨asks, hasks, rfl, hreads⟩ := Grouping.bind_asks body hbind
    exact ⟨x, body, asks, hselector, hasks, hreads, rfl⟩
  · cases h

theorem aggregation_key (h : (q.aggregation m pathPrefix).result = .ok aggregation) :
    GroupKey.ofSelector m pathPrefix q.keySelector = .ok aggregation.projector.key := by
  obtain ⟨key, hkey, h⟩ := Traced.bind_eq_ok.1 h
  split at h
  · obtain ⟨⟨node, aggregates⟩, -, h⟩ := Traced.bind_eq_ok.1 h
    cases h
    exact hkey
  · cases h

end AggregateQuery

end SearchQuery
