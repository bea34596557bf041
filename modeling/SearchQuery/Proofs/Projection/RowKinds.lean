import SearchQuery.Plan.Query
import SearchQuery.Proofs.Plan.Concerns

/-!
# Kinds of rows

A projection is evaluated on hits or on the groups of an aggregate query, and some of its nodes read
rows of one of these kinds only. A planned projection has no node of the other kind.

* `Takes`: the values that a pure method takes. On others it has no value.
* `ProjectionNode.nodes`, `rowKind?`: the nodes of a projection, and the rows that each is for.
* `ProjectionNode.LacksValue`: a node without a value on a row, though it is for such rows.
* `failsAt_of_evaluate`: a projection fails for such a node, or for one that is for other rows.
* `Selection.ofKind_bind`, `Grouping.ofKind_bind`: there are none of the latter.
* `plan_lacksValue`: so the results of a planned query fail for the former only.
-/

namespace SearchQuery

/-! ### Methods -/

/-- What a pure method wants an argument to be. -/
inductive ArgumentKind where
  | text
  | sequence
  | number
  | any

def ArgumentKind.accepts : ArgumentKind → Json → Bool
  | .text, .str _ | .sequence, .arr _ | .number, .int _ | .number, .float _ | .any, _ => true
  | _, _ => false

/-- The pure methods with the arguments that they take, but for `concat`, which takes any. -/
def signatures : List (String × List ArgumentKind) :=
  [("to_lower", [.text]), ("to_upper", [.text]), ("trim", [.text]), ("len", [.text]),
    ("len", [.sequence]), ("starts_with", [.text, .text]), ("ends_with", [.text, .text]),
    ("contains", [.text, .text]), ("contains", [.sequence, .any]), ("abs", [.number]),
    ("round", [.number])]

/-- Whether the method is a pure one and takes these values. -/
def Takes (method : String) (values : List Json) : Prop :=
  method = "concat" ∨ ∃ kinds, (method, kinds) ∈ signatures ∧
    List.Forall₂ (fun kind v => ArgumentKind.accepts kind v = true) kinds values

theorem accepts_text_iff {v : Json} : ArgumentKind.text.accepts v = true ↔ ∃ s, v = .str s := by
  cases v <;> simp [ArgumentKind.accepts]

theorem accepts_sequence_iff {v : Json} :
    ArgumentKind.sequence.accepts v = true ↔ ∃ items, v = .arr items := by
  cases v <;> simp [ArgumentKind.accepts]

theorem accepts_number_iff {v : Json} :
    ArgumentKind.number.accepts v = true ↔ ∃ x, v.float? = some x := by
  cases v <;> simp [ArgumentKind.accepts, Json.float?]

/-- The two readings of a number in `absolute`, whatever the bounds of the integers. -/
theorem float?_eq_none_of_absolute_with {i? : Option Int} {x? : Option Binary64}
    (fit : Int → Option Int)
    (h : (match i?, x? with
      | some i, _ =>
        match fit i.natAbs with
        | some j => (.ok (some (.int j)) : Except Fault (Option Json))
        | none => .error (.absRange i)
      | none, some x => .ok (some (.float x.abs))
      | none, none => .ok none) = .ok none) : x? = none := by
  cases i? with
  | none =>
    cases x? with
    | none => rfl
    | some x => cases h
  | some i =>
    simp only at h
    split at h <;> cases h

theorem not_accepts_number_of_absolute {v : Json} (h : absolute v = .ok none) :
    ¬ ArgumentKind.number.accepts v = true := by
  have hfloat : v.float? = none := by
    rw [absolute] at h
    -- comparing with the bounds of 64 bits would count up to them
    generalize fitInt64 = fit at h
    exact float?_eq_none_of_absolute_with fit h
  simp [accepts_number_iff, hfloat]

theorem not_accepts_number_of_rounded {v : Json} (h : rounded v = .ok none) :
    ¬ ArgumentKind.number.accepts v = true := by
  rw [accepts_number_iff]
  rintro ⟨x, hx⟩
  unfold rounded at h
  rw [hx] at h
  split at h
  · cases h
  · obtain ⟨y, -, hy⟩ := map_eq_ok.1 h
    cases hy
  · rename_i hnone
    cases hnone

/-- A method without a value does not take what it is applied to. -/
theorem not_takes_of_applyMethod {method : String} {values : List Json}
    (h : applyMethod method values = .ok none) : ¬ Takes method values := by
  unfold applyMethod at h
  split at h
  case h_11 v =>
    have haccepts := not_accepts_number_of_absolute h
    simpa [Takes, signatures] using haccepts
  case h_12 v =>
    have haccepts := not_accepts_number_of_rounded h
    simpa [Takes, signatures] using haccepts
  case h_13 =>
    rintro (rfl | ⟨kinds, hkinds, hvalues⟩)
    · simp_all
    · simp only [signatures, List.mem_cons, Prod.mk.injEq, List.not_mem_nil, or_false] at hkinds
      rcases hkinds with ⟨rfl, rfl⟩ | ⟨rfl, rfl⟩ | ⟨rfl, rfl⟩ | ⟨rfl, rfl⟩ | ⟨rfl, rfl⟩ |
        ⟨rfl, rfl⟩ | ⟨rfl, rfl⟩ | ⟨rfl, rfl⟩ | ⟨rfl, rfl⟩ | ⟨rfl, rfl⟩ | ⟨rfl, rfl⟩
      all_goals
        simp [List.forall₂_cons_left_iff, accepts_text_iff, accepts_sequence_iff] at hvalues
        aesop
  all_goals cases h

/-! ### Nodes -/

/-- What a row is: a hit, or a group of an aggregate query. -/
inductive RowKind where
  | hit
  | group
  deriving DecidableEq

def Row.kind : Row → RowKind
  | .hit _ => .hit
  | .aggregate _ => .group

namespace ProjectionNode

mutual

/-- The node and all nodes below it. -/
def nodes : ProjectionNode → List ProjectionNode
  | .member target name => .member target name :: nodes target
  | .binary op left right => .binary op left right :: (nodes left ++ nodes right)
  | .unary op operand => .unary op operand :: nodes operand
  | .call method args => .call method args :: nodesOfArgs args
  | .object members => .object members :: nodesOfMembers members
  | node => [node]

def nodesOfArgs : List ProjectionNode → List ProjectionNode
  | [] => []
  | node :: rest => nodes node ++ nodesOfArgs rest

def nodesOfMembers : List (String × ProjectionNode) → List ProjectionNode
  | [] => []
  | (_, node) :: rest => nodes node ++ nodesOfMembers rest

end

/-- The kind of rows that a node is for, if it is not for both. -/
def rowKind? : ProjectionNode → Option RowKind
  | .document _ | .field .. | .member .. | .metadata _ => some .hit
  | .groupKey | .aggregate .. => some .group
  | .constant _ | .binary .. | .unary .. | .call .. | .object _ => none

/-- None of the nodes is for rows of the other kind. -/
def OfKind (kind : RowKind) (ns : List ProjectionNode) : Prop :=
  ∀ n ∈ ns, ∀ k ∈ n.rowKind?, k = kind

/-- A node that has no value on a row, though it is for rows like it: the document of a hit is
missing, or a method does not take the values that it is applied to. -/
inductive LacksValue : Row → ProjectionNode → Error.Unreadable → Prop
  | document {hit : Hit} (path : Option String) (hsource : hit.source = none) :
    LacksValue (.hit hit) (.document path) (.noSource hit.id)
  | method {row : Row} {method : String} {args : List ProjectionNode} {values : List Json}
    (hvalues : evaluateArgs row args = .ok values) (htakes : ¬ Takes method values) :
    LacksValue row (.call method args) (.method method)

/-! ### Evaluation -/

/-- Why a projection with these nodes fails: one of them lacks its value, or is for other rows. -/
def FailsAt (row : Row) (ns : List ProjectionNode) (cause : Error.Unreadable) : Prop :=
  ∃ n ∈ ns, LacksValue row n cause ∨ ∃ k, n.rowKind? = some k ∧ k ≠ row.kind

variable {row : Row} {ns ns' : List ProjectionNode} {cause : Error.Unreadable}

theorem FailsAt.mono (h : FailsAt row ns cause) (hsub : ns ⊆ ns') : FailsAt row ns' cause := by
  obtain ⟨n, hn, hcause⟩ := h
  exact ⟨n, hsub hn, hcause⟩

theorem FailsAt.lacksValue (h : FailsAt row ns cause) (hkind : OfKind row.kind ns) :
    ∃ n ∈ ns, LacksValue row n cause := by
  obtain ⟨n, hn, hlacks | ⟨k, hk, hne⟩⟩ := h
  · exact ⟨n, hn, hlacks⟩
  · exact absurd (hkind n hn k hk) hne

theorem ofFault_ne_projection (x : Except Fault Json) : ofFault x ≠ .error (.projection cause) := by
  cases x <;> simp [ofFault]

theorem applyMethod_of_applyToResults {method : String} {values : List Json}
    (h : applyToResults method values = .error (.projection cause)) :
    cause = .method method ∧ applyMethod method values = .ok none := by
  unfold applyToResults at h
  split at h
  · cases h
  · rename_i hnone
    cases h
    exact ⟨rfl, hnone⟩
  · cases h

mutual

/-- A projection that cannot read a row has a node that lacks its value or is for other rows. -/
theorem failsAt_of_evaluate (row : Row) {cause : Error.Unreadable} :
    (node : ProjectionNode) → node.evaluate row = .error (.projection cause) →
      FailsAt row node.nodes cause
  | .constant v, h => by cases h
  | .document path, h => by
    refine ⟨_, List.mem_singleton_self _, ?_⟩
    cases row with
    | hit hit =>
      rw [evaluate, Hit.readDocument] at h
      split at h
      · cases h
      · rename_i hsource
        cases h
        exact .inl (.document path hsource)
    | aggregate row => exact .inr ⟨.hit, rfl, nofun⟩
  | .member target name, h => by
    rw [evaluate] at h
    rcases bind_eq_error.1 h with h | ⟨v, -, h⟩
    · exact (failsAt_of_evaluate row target h).mono (List.subset_cons_self _ _)
    · cases h
  | .field path scalar, h | .metadata f, h => by
    cases row with
    | hit hit => cases h
    | aggregate row => exact ⟨_, List.mem_singleton_self _, .inr ⟨.hit, rfl, nofun⟩⟩
  | .groupKey, h | .aggregate facet s, h => by
    cases row with
    | hit hit => exact ⟨_, List.mem_singleton_self _, .inr ⟨.group, rfl, nofun⟩⟩
    | aggregate row => cases h
  | .binary op left right, h => by
    rw [evaluate] at h
    rw [nodes]
    rcases bind_eq_error.1 h with h | ⟨l, -, h⟩
    · exact (failsAt_of_evaluate row left h).mono (by simp)
    rcases bind_eq_error.1 h with h | ⟨r, -, h⟩
    · exact (failsAt_of_evaluate row right h).mono (by simp)
    · exact absurd h (ofFault_ne_projection _)
  | .unary op operand, h => by
    rw [evaluate] at h
    rcases bind_eq_error.1 h with h | ⟨v, -, h⟩
    · exact (failsAt_of_evaluate row operand h).mono (List.subset_cons_self _ _)
    · exact absurd h (ofFault_ne_projection _)
  | .call method args, h => by
    rw [evaluate] at h
    rcases bind_eq_error.1 h with h | ⟨values, hvalues, h⟩
    · exact (failsAt_of_evaluateArgs row args h).mono (List.subset_cons_self _ _)
    · obtain ⟨rfl, hnone⟩ := applyMethod_of_applyToResults h
      exact ⟨_, List.mem_cons_self, .inl (.method hvalues (not_takes_of_applyMethod hnone))⟩
  | .object members, h => by
    rw [evaluate] at h
    rcases bind_eq_error.1 h with h | ⟨entries, -, h⟩
    · exact (failsAt_of_evaluateMembers row members h).mono (List.subset_cons_self _ _)
    · cases h

theorem failsAt_of_evaluateArgs (row : Row) {cause : Error.Unreadable} :
    (args : List ProjectionNode) → evaluateArgs row args = .error (.projection cause) →
      FailsAt row (nodesOfArgs args) cause
  | [], h => by cases h
  | node :: rest, h => by
    rw [evaluateArgs] at h
    rcases bind_eq_error.1 h with h | ⟨v, -, h⟩
    · exact (failsAt_of_evaluate row node h).mono (List.subset_append_left _ _)
    rcases bind_eq_error.1 h with h | ⟨values, -, h⟩
    · exact (failsAt_of_evaluateArgs row rest h).mono (List.subset_append_right _ _)
    · cases h

theorem failsAt_of_evaluateMembers (row : Row) {cause : Error.Unreadable} :
    (members : List (String × ProjectionNode)) →
      evaluateMembers row members = .error (.projection cause) →
      FailsAt row (nodesOfMembers members) cause
  | [], h => by cases h
  | (name, node) :: rest, h => by
    rw [evaluateMembers] at h
    rcases bind_eq_error.1 h with h | ⟨v, -, h⟩
    · exact (failsAt_of_evaluate row node h).mono (List.subset_append_left _ _)
    rcases bind_eq_error.1 h with h | ⟨entries, -, h⟩
    · exact (failsAt_of_evaluateMembers row rest h).mono (List.subset_append_right _ _)
    · cases h

end

namespace OfKind

variable {kind : RowKind} {ns ns' : List ProjectionNode} {n : ProjectionNode}

theorem nil (kind : RowKind) : OfKind kind [] := nofun

theorem cons (hn : ∀ k ∈ n.rowKind?, k = kind) (h : OfKind kind ns) : OfKind kind (n :: ns) :=
  List.forall_mem_cons.2 ⟨hn, h⟩

theorem append (h : OfKind kind ns) (h' : OfKind kind ns') : OfKind kind (ns ++ ns') :=
  List.forall_mem_append.2 ⟨h, h'⟩

/-- A node that is for rows of the kind, alone. -/
theorem of_some (h : n.rowKind? = some kind) : OfKind kind [n] := by
  refine cons ?_ (nil kind)
  rw [h]
  rintro k ⟨⟩
  rfl

/-- A node that is for all rows, above others. -/
theorem of_none (hn : n.rowKind? = none) (h : OfKind kind ns) : OfKind kind (n :: ns) := by
  refine cons ?_ h
  rw [hn]
  nofun

end OfKind

end ProjectionNode

open ProjectionNode (OfKind LacksValue)

/-! ### Selections -/

namespace Selection

variable {s : Selection}

theorem ofKind_bindParameter {fields : List String} {x : String}
    {bound : ProjectionNode × List String} (h : s.bindParameter fields x = .ok bound) :
    OfKind .hit bound.1.nodes := by
  unfold bindParameter at h
  split at h
  · cases h
    exact .of_some rfl
  · cases h

theorem ofKind_bindField {fields : List String} {e : Expression}
    {bound : ProjectionNode × List String} (h : s.bindField fields e = .ok bound) :
    OfKind .hit bound.1.nodes := by
  unfold bindField at h
  split at h
  · cases h
    exact .of_some rfl
  · cases h

mutual

/-- A selection is made for hits. -/
theorem ofKind_bind : (e : Expression) → {fields : List String} →
    {bound : ProjectionNode × List String} → s.bind fields e = .ok bound →
    OfKind .hit bound.1.nodes
  | .constant v, _, _, h => by
    cases h
    exact .of_none rfl (.nil _)
  | .hitField f, _, _, h => by
    cases h
    exact .of_some rfl
  | .parameter x, _, _, h => ofKind_bindParameter h
  | .member target m, _, _, h => by
    rw [bind] at h
    split at h
    · obtain ⟨⟨node, _⟩, htarget, h⟩ := bind_eq_ok.1 h
      cases h
      have hnodes : OfKind .hit node.nodes := ofKind_bind target htarget
      exact (OfKind.of_some rfl).append hnodes
    · exact ofKind_bindField h
  | .binary op left right, _, _, h => by
    rw [bind] at h
    obtain ⟨⟨l, _⟩, hleft, h⟩ := bind_eq_ok.1 h
    obtain ⟨⟨r, _⟩, hright, h⟩ := bind_eq_ok.1 h
    cases h
    exact .of_none rfl ((ofKind_bind left hleft).append (ofKind_bind right hright))
  | .unary op operand, _, _, h => by
    rw [bind] at h
    obtain ⟨⟨node, _⟩, hoperand, h⟩ := bind_eq_ok.1 h
    cases h
    exact .of_none rfl (ofKind_bind operand hoperand)
  | .call method args, _, _, h => by
    rw [bind] at h
    obtain ⟨⟨nodes, _⟩, hargs, h⟩ := bind_eq_ok.1 h
    cases h
    exact .of_none rfl (ofKind_bindArgs args hargs)
  | .construct members, _, _, h => by
    rw [bind] at h
    obtain ⟨⟨nodes, _⟩, hmembers, h⟩ := bind_eq_ok.1 h
    cases h
    exact .of_none rfl (ofKind_bindMembers members hmembers)
  | .lambda _ _, _, _, h | .source _, _, _, h => by cases h

theorem ofKind_bindArgs : (args : List Expression) → {fields : List String} →
    {bound : List ProjectionNode × List String} → s.bindArgs fields args = .ok bound →
    OfKind .hit (ProjectionNode.nodesOfArgs bound.1)
  | [], _, _, h => by
    cases h
    exact .nil _
  | e :: rest, _, _, h => by
    rw [bindArgs] at h
    obtain ⟨⟨node, _⟩, hnode, h⟩ := bind_eq_ok.1 h
    obtain ⟨⟨nodes, _⟩, hnodes, h⟩ := bind_eq_ok.1 h
    cases h
    exact (ofKind_bind e hnode).append (ofKind_bindArgs rest hnodes)

theorem ofKind_bindMembers : (members : List (String × Expression)) → {fields : List String} →
    {bound : List (String × ProjectionNode) × List String} →
    s.bindMembers fields members = .ok bound →
    OfKind .hit (ProjectionNode.nodesOfMembers bound.1)
  | [], _, _, h => by
    cases h
    exact .nil _
  | (name, e) :: rest, _, _, h => by
    rw [bindMembers] at h
    obtain ⟨⟨node, _⟩, hnode, h⟩ := bind_eq_ok.1 h
    obtain ⟨⟨nodes, _⟩, hnodes, h⟩ := bind_eq_ok.1 h
    cases h
    exact (ofKind_bind e hnode).append (ofKind_bindMembers rest hnodes)

end

end Selection

theorem Projection.ofKind_ofSelector {m : FieldMapping} {pathPrefix : String}
    {documentPrefix : Option String} {selector : Expression} {p : Projection}
    (h : ofSelector m pathPrefix documentPrefix selector = .ok p) :
    OfKind .hit p.projector.node.nodes := by
  unfold ofSelector at h
  split at h
  · obtain ⟨⟨node, fields⟩, hbind, h⟩ := bind_eq_ok.1 h
    cases h
    exact Selection.ofKind_bind _ hbind
  · cases h

/-! ### Groups -/

namespace Grouping

variable {g : Grouping} {a : Aggregates}

theorem ofKind_bindCount {predicate : Expression} {bound : ProjectionNode × Aggregates}
    (h : (g.bindCount a predicate).result = .ok bound) : OfKind .group bound.1.nodes := by
  obtain ⟨low, -, h⟩ := Traced.bind_eq_ok.1 h
  split_ifs at h
  · cases h
    exact .of_some rfl
  · cases h
  · cases h
    exact .of_some rfl

theorem ofKind_bindStatistic {s : Statistic} {selector : Expression}
    {bound : ProjectionNode × Aggregates} (h : g.bindStatistic a s selector = .ok bound) :
    OfKind .group bound.1.nodes := by
  unfold bindStatistic at h
  split at h
  · split at h
    · cases h
      exact .of_some rfl
    · cases h
  · cases h

theorem ofKind_bindAggregate {method : String} {args : List Expression}
    {bound : ProjectionNode × Aggregates} (h : (g.bindAggregate a method args).result = .ok bound) :
    OfKind .group bound.1.nodes := by
  unfold bindAggregate at h
  split at h
  · cases h
  · cases h
    exact .of_some rfl
  · exact ofKind_bindCount h
  · exact ofKind_bindStatistic h
  · cases h

mutual

/-- A projection over groups is made for groups. -/
theorem ofKind_bind : (e : Expression) → {a : Aggregates} → {bound : ProjectionNode × Aggregates} →
    (g.bind a e).result = .ok bound → OfKind .group bound.1.nodes
  | .constant _, _, _, h => by
    rw [bind] at h
    cases h
    exact .of_none rfl (.nil _)
  | .member target m, _, _, h => by
    rw [bind] at h
    split_ifs at h <;> cases h
    exact .of_some rfl
  | .binary op left right, _, _, h => by
    rw [bind] at h
    obtain ⟨⟨l, _⟩, hl, h⟩ := Traced.bind_eq_ok.1 h
    obtain ⟨⟨r, _⟩, hr, h⟩ := Traced.bind_eq_ok.1 h
    cases h
    exact .of_none rfl ((ofKind_bind left hl).append (ofKind_bind right hr))
  | .unary op operand, _, _, h => by
    rw [bind] at h
    obtain ⟨⟨o, _⟩, ho, h⟩ := Traced.bind_eq_ok.1 h
    cases h
    exact .of_none rfl (ofKind_bind operand ho)
  | .call method [], _, _, h => by
    rw [bind] at h
    cases h
    exact .of_none rfl (.nil _)
  | .call method (first :: rest), _, _, h => by
    rw [bind] at h
    split_ifs at h
    · exact ofKind_bindAggregate h
    · obtain ⟨⟨n, _⟩, hfirst, h⟩ := Traced.bind_eq_ok.1 h
      obtain ⟨⟨ns, _⟩, hrest, h⟩ := Traced.bind_eq_ok.1 h
      cases h
      exact .of_none rfl ((ofKind_bind first hfirst).append (ofKind_bindArgs rest hrest))
  | .construct members, _, _, h => by
    rw [bind] at h
    obtain ⟨⟨ns, _⟩, hmembers, h⟩ := Traced.bind_eq_ok.1 h
    cases h
    exact .of_none rfl (ofKind_bindMembers members hmembers)
  | .parameter _, _, _, h | .hitField _, _, _, h | .lambda _ _, _, _, h | .source _, _, _, h => by
    rw [bind] at h
    cases h

theorem ofKind_bindArgs : (args : List Expression) → {a : Aggregates} →
    {bound : List ProjectionNode × Aggregates} → (g.bindArgs a args).result = .ok bound →
    OfKind .group (ProjectionNode.nodesOfArgs bound.1)
  | [], _, _, h => by
    cases h
    exact .nil _
  | e :: rest, _, _, h => by
    rw [bindArgs] at h
    obtain ⟨⟨n, _⟩, he, h⟩ := Traced.bind_eq_ok.1 h
    obtain ⟨⟨ns, _⟩, hrest, h⟩ := Traced.bind_eq_ok.1 h
    cases h
    exact (ofKind_bind e he).append (ofKind_bindArgs rest hrest)

theorem ofKind_bindMembers : (members : List (String × Expression)) → {a : Aggregates} →
    {bound : List (String × ProjectionNode) × Aggregates} →
    (g.bindMembers a members).result = .ok bound →
    OfKind .group (ProjectionNode.nodesOfMembers bound.1)
  | [], _, _, h => by
    cases h
    exact .nil _
  | (name, e) :: rest, _, _, h => by
    rw [bindMembers] at h
    obtain ⟨⟨n, _⟩, he, h⟩ := Traced.bind_eq_ok.1 h
    obtain ⟨⟨ns, _⟩, hrest, h⟩ := Traced.bind_eq_ok.1 h
    cases h
    exact (ofKind_bind e he).append (ofKind_bindMembers rest hrest)

end

end Grouping

theorem AggregateQuery.ofKind_aggregation {m : FieldMapping} {pathPrefix : String}
    {q : AggregateQuery} {aggregation : Aggregation}
    (h : (q.aggregation m pathPrefix).result = .ok aggregation) :
    OfKind .group aggregation.projector.node.nodes := by
  obtain ⟨key, -, h⟩ := Traced.bind_eq_ok.1 h
  split at h
  · obtain ⟨⟨node, aggregates⟩, hbind, h⟩ := Traced.bind_eq_ok.1 h
    cases h
    exact Grouping.ofKind_bind _ hbind
  · cases h

/-! ### Drafts -/

namespace Draft

variable {scope : Scope} {d d' : Draft}

/-- What is selected so far is selected from hits. -/
def SelectsHits (d : Draft) : Prop := ∀ p ∈ d.projector, OfKind .hit p.node.nodes

theorem SelectsHits.of_concern {op : Operator} {k : Concern} (hd : d.SelectsHits)
    (hconcern : op.concern? = some k) (hselect : k ≠ .select)
    (h : (d.apply scope op).result = .ok d') : d'.SelectsHits := by
  have hlocal : d' = d.settle k d' := (apply_local hconcern).eq_settle h
  rw [hlocal]
  cases k with
  | select => exact absurd rfl hselect
  | _ => exact hd

theorem SelectsHits.select {selector : Expression} (h : d.select scope selector = .ok d') :
    d'.SelectsHits := by
  unfold Draft.select at h
  split_ifs at h
  obtain ⟨p, hp, h⟩ := bind_eq_ok.1 h
  cases h
  rintro projector ⟨⟩
  exact Projection.ofKind_ofSelector hp

theorem SelectsHits.apply {op : Operator} (hd : d.SelectsHits)
    (h : (d.apply scope op).result = .ok d') : d'.SelectsHits := by
  cases op with
  | filterBy _ | scoreBy _ | matchText _ | sortBy _ _ | sortByScore _ | skip _ | take _ | retype =>
    exact hd.of_concern rfl (by decide) h
  | select selector => exact SelectsHits.select h
  | terminal method t predicate =>
    cases predicate with
    | none => exact hd.of_concern rfl (by decide) h
    | some predicate =>
      obtain ⟨d₁, hd₁, h⟩ := Traced.bind_eq_ok.1 h
      have hterminal : (d.apply scope (.terminal method t none)).result = .ok d₁ := hd₁
      have hset : d₁.SelectsHits := hd.of_concern rfl (by decide) hterminal
      obtain ⟨f, p, -, -, rfl⟩ := filterBy_eq_ok_iff.1 h
      exact hset

theorem SelectsHits.ofChain {chain : Chain} {type : DocumentType}
    (h : (ofChain scope chain).result = .ok (d, type)) : d.SelectsHits := by
  obtain ⟨d₁, hsteps, h⟩ := Traced.bind_eq_ok.1 h
  obtain ⟨type', -, h⟩ := Traced.bind_eq_ok.1 h
  cases h
  have hempty : empty.SelectsHits := nofun
  obtain ⟨-, -, hd₁⟩ := applySteps_induct (motive := fun _ d => d.SelectsHits) hempty
    (fun _ _ _ _ hd happly => hd.apply happly) hsteps
  exact hd₁

end Draft

/-! ### Materializers -/

namespace Materializer

/-- The rows that a materializer evaluates its projection on. -/
def rows (response : SearchResponse) : Materializer → List Row
  | .manyHits _ => response.hits.hits.map .hit
  | .oneHit .. => (response.hits.hits.take 1).map .hit
  | .count => []
  | .manyFacets projector => (projector.rows response.facets).map .aggregate

/-- The nodes of the projection. -/
def nodes : Materializer → List ProjectionNode
  | .manyHits projector | .oneHit projector _ _ => projector.node.nodes
  | .count => []
  | .manyFacets projector => projector.node.nodes

def rowKind : Materializer → RowKind
  | .manyHits _ | .oneHit .. | .count => .hit
  | .manyFacets _ => .group

variable {materializer : Materializer} {response : SearchResponse} {cause : Error.Unreadable}

theorem kind_of_mem_rows {row : Row} (h : row ∈ materializer.rows response) :
    row.kind = materializer.rowKind := by
  cases materializer with
  | count => cases h
  | _ =>
    obtain ⟨_, -, rfl⟩ := List.mem_map.1 h
    rfl

/-- The one hit is the first one. -/
theorem project_of_applyOne {projector : Projector} {strict orDefault : Bool} {hits : List Hit}
    (h : applyOne projector strict orDefault hits = .error (.projection cause)) :
    ∃ hit ∈ hits.take 1, projector.project hit = .error (.projection cause) := by
  cases hits with
  | nil => cases strict <;> cases orDefault <;> cases h
  | cons hit rest =>
    unfold applyOne at h
    by_cases hmany : (strict && decide (1 < (hit :: rest).length)) = true
    · rw [if_pos hmany] at h
      cases h
    · rw [if_neg hmany] at h
      exact ⟨hit, List.mem_cons_self, map_eq_error.1 h⟩

/-- A projection error comes from a row and from a node of the projection. -/
theorem failsAt_of_materialize
    (h : (materializer.materialize response).result = .error (.projection cause)) :
    ∃ row ∈ materializer.rows response,
      ProjectionNode.FailsAt row materializer.nodes cause := by
  have happly : materializer.apply response = .error (.projection cause) := h
  cases materializer with
  | manyHits projector =>
    obtain ⟨hit, hhit, hfails⟩ := exists_of_mapM_eq_error (map_eq_error.1 happly)
    exact ⟨.hit hit, List.mem_map_of_mem hhit, ProjectionNode.failsAt_of_evaluate _ _ hfails⟩
  | oneHit projector strict orDefault =>
    obtain ⟨hit, hhit, hfails⟩ := project_of_applyOne happly
    exact ⟨.hit hit, List.mem_map_of_mem hhit, ProjectionNode.failsAt_of_evaluate _ _ hfails⟩
  | count => cases happly
  | manyFacets projector =>
    obtain ⟨row, hrow, hfails⟩ := exists_of_mapM_eq_error (map_eq_error.1 happly)
    exact ⟨.aggregate row, List.mem_map_of_mem hrow, ProjectionNode.failsAt_of_evaluate _ _ hfails⟩

end Materializer

theorem Draft.SelectsHits.ofKind_materializer {d : Draft} (hd : d.SelectsHits) (s : Scope) :
    OfKind (d.materializer s).rowKind (d.materializer s).nodes := by
  have hprojector : OfKind .hit
      (d.projector.getD (Projector.document s.documentPrefix)).node.nodes := by
    cases hp : d.projector with
    | none => exact .of_some rfl
    | some p => exact hd p hp
  unfold Draft.materializer
  cases d.terminal with
  | none => exact hprojector
  | some t =>
    cases t with
    | oneHit strict orDefault => exact hprojector
    | count => exact .nil _

namespace Expression

variable {m : FieldMapping} {pathPrefix : String} {query : Expression} {t : QueryPlan}

theorem ofKind_plan (hplan : (query.plan m pathPrefix).result = .ok t) :
    OfKind t.materializer.rowKind t.materializer.nodes := by
  obtain ⟨folded, -, h⟩ := plan_eq_ok_iff.1 hplan
  unfold planFolded at h
  split at h
  · obtain ⟨aggregation, haggregation, h⟩ := Traced.bind_eq_ok.1 h
    obtain ⟨⟨d, type⟩, -, h⟩ := Traced.bind_eq_ok.1 h
    cases h
    exact AggregateQuery.ofKind_aggregation haggregation
  · obtain ⟨⟨d, type⟩, hchain, h⟩ := Traced.bind_eq_ok.1 h
    cases h
    exact (Draft.SelectsHits.ofChain hchain).ofKind_materializer _

/-- **Rows of different kinds never mix.** A planned projection has no nodes for rows of the other
kind. So if a result cannot be read, then one of its rows has no document and the projection reads
the whole document, or the projection applies a method to values that it does not take. -/
theorem plan_lacksValue (hplan : (query.plan m pathPrefix).result = .ok t) :
    OfKind t.materializer.rowKind t.materializer.nodes ∧
      ∀ response cause, (t.materializer.materialize response).result = .error (.projection cause) →
        ∃ row ∈ t.materializer.rows response, ∃ n ∈ t.materializer.nodes,
          LacksValue row n cause := by
  have hkind := ofKind_plan hplan
  refine ⟨hkind, fun response cause h => ?_⟩
  obtain ⟨row, hrow, hfails⟩ := Materializer.failsAt_of_materialize h
  rw [← Materializer.kind_of_mem_rows hrow] at hkind
  exact ⟨row, hrow, hfails.lacksValue hkind⟩

end Expression

namespace Film

/-- The year of each film in lower case, though it is a number. -/
def lowerYear : Expression :=
  (Expression.source documents).select
    (.lambda "f" (.call "to_lower" [(Expression.parameter "f").member year]))

/-- A page with one film, from 1970. -/
def pageOf1970 : SearchResponse :=
  ⟨1, false, none,
    ⟨1, none, [⟨"films", "films", "1", none, none, [("year", .arr [.int 1970])]⟩]⟩, []⟩

theorem plan_lowerYear : ∃ t, (lowerYear.plan mapping "").result = .ok t ∧
    (t.materializer.materialize pageOf1970).result = .error (.projection (.method "to_lower")) :=
  ⟨_, rfl, rfl⟩

end Film

namespace Expression

theorem plan_lacksValue_film :
    ∃ t, (Film.lowerYear.plan Film.mapping "").result = .ok t ∧
      OfKind t.materializer.rowKind t.materializer.nodes ∧
      ∃ row ∈ t.materializer.rows Film.pageOf1970, ∃ n ∈ t.materializer.nodes,
        LacksValue row n (.method "to_lower") := by
  obtain ⟨t, hplan, herror⟩ := Film.plan_lowerYear
  obtain ⟨hkind, hlacks⟩ := plan_lacksValue hplan
  exact ⟨t, hplan, hkind, hlacks _ _ herror⟩

/-- A method that has a value on texts has none on other values. -/
theorem exists_plan_lacksValue_of_pure :
    ¬ ∀ (m : FieldMapping) (pathPrefix : String) (query : Expression) (t : QueryPlan)
      (response : SearchResponse) (cause : Error.Unreadable),
      (query.plan m pathPrefix).result = .ok t →
      (t.materializer.materialize response).result = .error (.projection cause) →
      (∃ id, cause = .noSource id) ∨
        ∃ method, cause = .method method ∧
          ∀ values v, applyMethod method values ≠ .ok (some v) := by
  intro hclaim
  obtain ⟨t, hplan, herror⟩ := Film.plan_lowerYear
  obtain ⟨id, hid⟩ | ⟨method, hmethod, hnone⟩ := hclaim _ _ _ _ _ _ hplan herror
  · cases hid
  · cases hmethod
    exact hnone [.str ""] _ rfl

end Expression

end SearchQuery
