import SearchQuery.Proofs.Plan.Conjunction

/-!
# Formulas over leaves that count for the score

All leaves of such a formula are lifted into one bool node, each under the connective that joins it:
below `and` it must hold, below `or` it should.

* `Scores.add_empty`: the query that the formula comes to.
* `Scores.forall_holds_iff`: when that query means the formula. As both are monotone in the leaves,
  it is enough to look at one document for each leaf and one for all that must hold.
* `Scores.liftsFaithfully_iff`: for distinct leaves this is so exactly where all connectives are the
  same. A `should` clause next to a `must` clause is optional, so mixed ones come apart.
-/

namespace SearchQuery

open Lowered (Connective)

namespace Formula

/-- Connectives over leaves that count for the score. -/
inductive Scores : Formula → Prop
  | atom {c : Criteria} (h : c.isScoringLeaf = true) : Scores (.atom c)
  | join (op : Connective) {left right : Formula} (hl : Scores left) (hr : Scores right) :
    Scores (.join op left right)

/-- The criteria of a formula that is a single leaf. -/
def leaf : Formula → List Criteria
  | .atom c => [c]
  | _ => []

/-- The leaves below connectives, each with the one that joins it, in the order of lifting. -/
def lifts : Formula → List (Connective × Criteria)
  | .join op left right => left.lifts ++ right.lifts ++ (left.leaf ++ right.leaf).map (op, ·)
  | _ => []

end Formula

/-- What is lifted under one connective. -/
def liftedUnder (op : Connective) (lifted : List (Connective × Criteria)) : List Criteria :=
  (lifted.filter (·.1 = op)).map (·.2)

theorem mem_liftedUnder {op : Connective} {lifted : List (Connective × Criteria)} {c : Criteria} :
    c ∈ liftedUnder op lifted ↔ (op, c) ∈ lifted := by
  simp only [liftedUnder, List.mem_map, List.mem_filter, decide_eq_true_eq]
  constructor
  · rintro ⟨⟨_, _⟩, ⟨hmem, rfl⟩, rfl⟩
    exact hmem
  · intro hmem
    exact ⟨(op, c), ⟨hmem, rfl⟩, rfl⟩

/-! ### Lifting into a bool node -/

theorem liftAll_bool (must mustNot should : List Criteria) (lifted : List (Connective × Criteria)) :
    liftAll (some (.bool must mustNot should)) lifted =
      some (.bool (must ++ liftedUnder .and lifted) mustNot
        (should ++ liftedUnder .or lifted)) := by
  induction lifted generalizing must should with
  | nil => simp [liftAll, liftedUnder]
  | cons l rest ih =>
    obtain ⟨op, c⟩ := l
    cases op with
    | and => exact (ih (must ++ [c]) should).trans (by simp [liftedUnder])
    | or => exact (ih must (should ++ [c])).trans (by simp [liftedUnder])

theorem liftAll_none {lifted : List (Connective × Criteria)} (hne : lifted ≠ []) :
    liftAll none lifted =
      some (.bool (liftedUnder .and lifted) [] (liftedUnder .or lifted)) := by
  cases lifted with
  | nil => exact absurd rfl hne
  | cons l rest =>
    have hbool := liftAll_bool [] [] [] (l :: rest)
    rw [List.nil_append, List.nil_append] at hbool
    rw [← hbool]
    obtain ⟨op, c⟩ := l
    cases op <;> rfl

namespace Formula

variable {f : Formula} {c : Criteria} {v w : Valuation}

/-- The query of a formula over leaves that count for the score. -/
def scoringQuery : Formula → Criteria
  | .atom c => c
  | f => .bool (liftedUnder .and f.lifts) [] (liftedUnder .or f.lifts)

theorem isQueryContext_remainder (a b : Criteria) :
    (Connective.remainder a b).isQueryContext = false := by
  unfold Connective.remainder
  split_ifs with ha hb
  · simpa using ha
  · simpa using hb
  · rfl

/-- All leaves below a connective are lifted; a single leaf remains. -/
theorem Scores.exists_split (h : f.Scores) :
    ∃ s, f.split = some s ∧ s.lifted = f.lifts ∧
      [s.rest].filter Criteria.isQueryContext = f.leaf ∧
      (s.rest.isQueryContext = false → s.rest.isNop = true) := by
  induction h with
  | atom h =>
    have hq := Criteria.isQueryContext_of_isScoringLeaf h
    exact ⟨_, rfl, rfl, by simp [hq, leaf], by simp [hq]⟩
  | @join op left right _ _ ihl ihr =>
    obtain ⟨l, hl, hll, hlleaf, hlnop⟩ := ihl
    obtain ⟨r, hr, hrl, hrleaf, hrnop⟩ := ihr
    have hsides : left.leaf ++ right.leaf = [l.rest, r.rest].filter Criteria.isQueryContext := by
      rw [← hlleaf, ← hrleaf, ← List.filter_append, List.singleton_append]
    have hjoin : (Formula.join op left right).leaf = [] := rfl
    simp only [split, hl, hr, Option.bind_some, Split.join, lifts, ← hll, ← hrl, hsides, hjoin]
    -- a side that is no single leaf has left a place holder, so nothing else can remain
    by_cases hscoring : (l.rest.isQueryContext || r.rest.isQueryContext) = true
    · rw [if_pos hscoring]
      refine ⟨_, rfl, rfl, by simp [isQueryContext_remainder], fun _ => ?_⟩
      unfold Connective.remainder
      split_ifs with hlq hrq
      · exact hlnop (by simpa using hlq)
      · exact hrnop (by simpa using hrq)
      · rfl
    · rw [if_neg hscoring]
      rw [Bool.or_eq_true, not_or, Bool.not_eq_true, Bool.not_eq_true] at hscoring
      rw [Connective.joinFilters, if_pos (hlnop hscoring.1)]
      exact ⟨_, rfl, by simp [hscoring], by simp [hscoring], hrnop⟩

theorem Scores.lifts_ne_nil (h : f.Scores) : f.leaf = [] → f.lifts ≠ [] := by
  induction h with
  | atom h => simp [leaf]
  | join op hl hr ihl ihr =>
    intro _ hnil
    simp only [lifts, List.append_eq_nil_iff, List.map_eq_nil_iff] at hnil
    exact ihl hnil.2.1 hnil.1.1

/-- Placed first, the formula comes to its query and no filter. -/
theorem Scores.add_empty (h : f.Scores) :
    Placement.empty.add ⟨false, f⟩ = some ⟨some f.scoringQuery, none⟩ := by
  obtain ⟨s, hs, hlifted, hleaf, hnop⟩ := h.exists_split
  rw [Placement.add, hs, Option.map_some, hlifted]
  cases h with
  | atom h =>
    have hq := Criteria.isQueryContext_of_isScoringLeaf h
    cases hs
    rw [Placement.put_score (by simp [Criteria.isNop_of_isQueryContext hq]) (.inr hq)]
    rfl
  | join op hl hr =>
    have hrest : s.rest.isQueryContext = false := by
      simpa [leaf] using hleaf
    rw [Placement.put_nop (hnop hrest), Placement.lift, Placement.empty,
      liftAll_none ((Scores.join op hl hr).lifts_ne_nil rfl)]
    rfl

/-! ### Meaning -/

theorem Scores.mem_atoms (h : f.Scores) :
    c ∈ f.atoms ↔ (∃ op, (op, c) ∈ f.lifts) ∨ c ∈ f.leaf := by
  induction h with
  | atom h => simp [atoms, lifts, leaf]
  | join op hl hr ihl ihr =>
    simp only [atoms, lifts, leaf, List.mem_append, List.mem_map, Prod.mk.injEq, ihl, ihr,
      exists_or, List.not_mem_nil, or_false]
    constructor
    · rintro ((h | h) | (h | h))
      · exact .inl (.inl h)
      · exact .inr ⟨op, c, .inl h, rfl, rfl⟩
      · exact .inl (.inr h)
      · exact .inr ⟨op, c, .inr h, rfl, rfl⟩
    · rintro ((h | h) | ⟨_, _, h | h, -, rfl⟩)
      · exact .inl (.inl h)
      · exact .inr (.inl h)
      · exact .inl (.inr h)
      · exact .inr (.inr h)

theorem Scores.isScoringLeaf (h : f.Scores) : ∀ c ∈ f.atoms, c.isScoringLeaf = true := by
  induction h with
  | atom h => simpa [atoms] using h
  | join op hl hr ihl ihr =>
    intro c hc
    rcases List.mem_append.1 hc with hc | hc
    · exact ihl c hc
    · exact ihr c hc

theorem holds_of_isScoringLeaf (h : c.isScoringLeaf = true) : c.holds v = v.leaf c := by
  cases c <;> first | rfl | cases h

/-- More leaves hold, more formulas do. -/
theorem Scores.holds_mono (h : f.Scores)
    (hvw : ∀ c ∈ f.atoms, v.leaf c = true → w.leaf c = true) :
    f.holds v = true → f.holds w = true := by
  induction h with
  | atom h =>
    simpa [holds, holds_of_isScoringLeaf h, atoms] using hvw
  | join op hl hr ihl ihr =>
    simp only [atoms, List.mem_append, or_imp, forall_and] at hvw
    have ihl := ihl hvw.1
    have ihr := ihr hvw.2
    cases op with
    | and =>
      simp only [holds, Bool.and_eq_true]
      exact fun h => ⟨ihl h.1, ihr h.2⟩
    | or =>
      simp only [holds, Bool.or_eq_true]
      exact fun h => h.imp ihl ihr

/-- Where all leaves have one answer, so does the formula. -/
theorem Scores.holds_of_forall (h : f.Scores) {b : Bool} (hb : ∀ c ∈ f.atoms, v.leaf c = b) :
    f.holds v = b := by
  induction h with
  | atom h => simpa [holds, holds_of_isScoringLeaf h, atoms] using hb
  | join op hl hr ihl ihr =>
    simp only [atoms, List.mem_append, or_imp, forall_and] at hb
    cases op <;> simp [holds, ihl hb.1, ihr hb.2]

theorem Scores.scoringQuery_eq (h : f.Scores) (hleaf : f.leaf = []) :
    f.scoringQuery = .bool (liftedUnder .and f.lifts) [] (liftedUnder .or f.lifts) := by
  cases h with
  | atom h => cases hleaf
  | join => rfl

theorem Scores.holds_of_mem_lifts (h : f.Scores) {op : Connective}
    (hc : c ∈ liftedUnder op f.lifts) : c.holds v = v.leaf c := by
  have hatom : c ∈ f.atoms := h.mem_atoms.2 (.inl ⟨op, mem_liftedUnder.1 hc⟩)
  exact holds_of_isScoringLeaf (h.isScoringLeaf c hatom)

/-- If some leaves must hold, these decide. -/
theorem Scores.holds_scoringQuery_of_must (h : f.Scores) (hleaf : f.leaf = [])
    (hmust : liftedUnder .and f.lifts ≠ []) :
    f.scoringQuery.holds v = true ↔ ∀ c ∈ liftedUnder .and f.lifts, v.leaf c = true := by
  have hempty : (liftedUnder .and f.lifts).isEmpty = false := by simpa using hmust
  rw [h.scoringQuery_eq hleaf, Criteria.holds_bool, hempty, Bool.not_false, Bool.true_or,
    Bool.and_true, List.any_nil, Bool.not_false, Bool.and_true, List.all_eq_true]
  exact forall₂_congr fun c hc => by rw [h.holds_of_mem_lifts hc]

/-- If none must hold, one of those that should is enough. -/
theorem Scores.holds_scoringQuery_of_should (h : f.Scores) (hleaf : f.leaf = [])
    (hmust : liftedUnder .and f.lifts = []) :
    f.scoringQuery.holds v = true ↔ ∃ c ∈ liftedUnder .or f.lifts, v.leaf c = true := by
  rw [h.scoringQuery_eq hleaf, Criteria.holds_bool, hmust, List.all_nil, List.any_nil,
    List.isEmpty_nil, Bool.not_true, Bool.false_or, Bool.not_false, Bool.true_and, Bool.true_and,
    List.any_eq_true]
  exact exists_congr fun c => and_congr_right fun hc => by rw [h.holds_of_mem_lifts hc]

/-- Without leaves that must hold, all are among those that should. -/
theorem Scores.mem_should (h : f.Scores) (hleaf : f.leaf = [])
    (hmust : liftedUnder .and f.lifts = []) (hc : c ∈ f.atoms) :
    c ∈ liftedUnder .or f.lifts := by
  rcases h.mem_atoms.1 hc with ⟨op, hop⟩ | hc
  · rw [← mem_liftedUnder] at hop
    cases op with
    | and => simp [hmust] at hop
    | or => exact hop
  · simp [hleaf] at hc

end Formula

/-! ### When the query means the formula -/

/-- The document that answers the leaves so. -/
def Valuation.ofLeaves (leaf : Criteria → Bool) : Valuation where
  leaf := leaf
  within _ _ := true
  within_same _ _ _ _ := rfl

namespace Formula

variable {f : Formula} {c : Criteria} {v : Valuation}

/-- Whether the formula holds where just the leaves hold that must, and fails where just one of
them does not. Where none must hold, whether each that should is enough. -/
def liftsFaithfully (f : Formula) : Bool :=
  if liftedUnder .and f.lifts = [] then
    (liftedUnder .or f.lifts).all fun c => f.holds (.ofLeaves fun d => d = c)
  else
    f.holds (.ofLeaves fun d => d ∈ liftedUnder .and f.lifts) &&
      (liftedUnder .and f.lifts).all fun c => !f.holds (.ofLeaves fun d => d ≠ c)

theorem Scores.forall_holds_of_should (h : f.Scores) (hleaf : f.leaf = [])
    (hmust : liftedUnder .and f.lifts = []) :
    (∀ v, f.scoringQuery.holds v = f.holds v) ↔
      ∀ c ∈ liftedUnder .or f.lifts, f.holds (.ofLeaves fun d => d = c) = true := by
  constructor
  · intro hall c hc
    rw [← hall, h.holds_scoringQuery_of_should hleaf hmust]
    exact ⟨c, hc, decide_eq_true rfl⟩
  · intro hall v
    rw [Bool.eq_iff_iff, h.holds_scoringQuery_of_should hleaf hmust]
    constructor
    · rintro ⟨c, hc, hv⟩
      refine h.holds_mono (fun d _ hd => ?_) (hall c hc)
      obtain rfl : d = c := of_decide_eq_true hd
      exact hv
    · intro hf
      by_contra hnone
      have hfalse : f.holds v = false := h.holds_of_forall fun c hc => by
        by_contra hv
        exact hnone ⟨c, h.mem_should hleaf hmust hc, by simpa using hv⟩
      rw [hfalse] at hf
      cases hf

theorem Scores.forall_holds_of_must (h : f.Scores) (hleaf : f.leaf = [])
    (hmust : liftedUnder .and f.lifts ≠ []) :
    (∀ v, f.scoringQuery.holds v = f.holds v) ↔
      f.holds (.ofLeaves fun d => d ∈ liftedUnder .and f.lifts) = true ∧
        ∀ c ∈ liftedUnder .and f.lifts, f.holds (.ofLeaves fun d => d ≠ c) = false := by
  constructor
  · intro hall
    refine ⟨?_, fun c hc => ?_⟩
    · rw [← hall, h.holds_scoringQuery_of_must hleaf hmust]
      exact fun c hc => decide_eq_true hc
    · rw [← hall, ← Bool.not_eq_true, h.holds_scoringQuery_of_must hleaf hmust]
      exact fun hholds => of_decide_eq_true (hholds c hc) rfl
  · rintro ⟨henough, hneeded⟩ v
    rw [Bool.eq_iff_iff, h.holds_scoringQuery_of_must hleaf hmust]
    constructor
    · intro hv
      exact h.holds_mono (fun d _ hd => hv d (of_decide_eq_true hd)) henough
    · intro hf c hc
      by_contra hv
      have hbut : f.holds (.ofLeaves fun d => d ≠ c) = true := by
        refine h.holds_mono (fun d _ hd => decide_eq_true ?_) hf
        rintro rfl
        exact hv hd
      rw [hneeded c hc] at hbut
      cases hbut

/-- **When lifting keeps the meaning.** The query means the formula exactly where it does so on the
documents that `liftsFaithfully` looks at. -/
theorem Scores.forall_holds_iff (h : f.Scores) :
    (∀ v, f.scoringQuery.holds v = f.holds v) ↔ f.liftsFaithfully = true := by
  cases h with
  | atom h => simp [scoringQuery, holds, liftsFaithfully, lifts, liftedUnder]
  | join op hl hr =>
    have hjoin := Scores.join op hl hr
    unfold liftsFaithfully
    split_ifs with hmust
    · rw [hjoin.forall_holds_of_should rfl hmust, List.all_eq_true]
    · rw [hjoin.forall_holds_of_must rfl hmust, Bool.and_eq_true, List.all_eq_true]
      simp only [Bool.not_eq_true']

end Formula

/-! ### Distinct leaves -/

/-- The answer of either side that leaves the decision to the other. -/
def Lowered.Connective.neutral : Connective → Bool
  | .and => true
  | .or => false

namespace Formula

variable {f left right : Formula} {op op' : Connective} {c : Criteria} {v w : Valuation}

/-- Whether the connective is the only one. -/
def joinsOnly (op : Connective) : Formula → Bool
  | .atom _ => true
  | .not inner => inner.joinsOnly op
  | .join op' left right => op' = op && left.joinsOnly op && right.joinsOnly op

theorem holds_join_left (h : left.holds v = op.neutral) :
    (join op left right).holds v = right.holds v := by
  cases op <;> simp [holds, h, Connective.neutral]

theorem holds_join_right (h : right.holds v = op.neutral) :
    (join op left right).holds v = left.holds v := by
  cases op <;> simp [holds, h, Connective.neutral]

theorem holds_join_eq_neutral :
    (join op left right).holds v = op.neutral ↔
      left.holds v = op.neutral ∧ right.holds v = op.neutral := by
  cases op <;> simp [holds, Connective.neutral]

/-- The other connective is decided by one side. -/
theorem holds_join_of_ne (hne : op' ≠ op)
    (h : left.holds v = op.neutral ∨ right.holds v = op.neutral) :
    (join op' left right).holds v = op.neutral := by
  cases op <;> cases op' <;> rcases h with h | h <;>
    simp_all [holds, Connective.neutral]

theorem Scores.holds_congr (h : f.Scores) (hvw : ∀ c ∈ f.atoms, v.leaf c = w.leaf c) :
    f.holds v = f.holds w := by
  rw [Bool.eq_iff_iff]
  exact ⟨h.holds_mono fun c hc hv => by rwa [← hvw c hc],
    h.holds_mono fun c hc hw => by rwa [hvw c hc]⟩

/-- One connective over all leaves means that connective of all leaves. -/
theorem Scores.holds_of_joinsOnly (h : f.Scores) (hop : f.joinsOnly op = true) :
    f.holds v = op.neutral ↔ ∀ c ∈ f.atoms, v.leaf c = op.neutral := by
  induction h with
  | atom h => simp [holds, holds_of_isScoringLeaf h, atoms]
  | join op' hl hr ihl ihr =>
    simp only [joinsOnly, Bool.and_eq_true, decide_eq_true_eq] at hop
    obtain ⟨⟨rfl, hl⟩, hr⟩ := hop
    rw [holds_join_eq_neutral, ihl hl, ihr hr]
    simp only [atoms, List.mem_append, or_imp, forall_and]

/-- A formula over distinct leaves that means one connective of some of them has no other. -/
theorem Scores.joinsOnly_of_holds (h : f.Scores) (hnodup : f.atoms.Nodup) {cs : List Criteria}
    (hcs : ∀ c ∈ cs, c ∈ f.atoms)
    (hmeans : ∀ v, f.holds v = op.neutral ↔ ∀ c ∈ cs, v.leaf c = op.neutral) :
    f.joinsOnly op = true := by
  induction h generalizing cs with
  | atom h => rfl
  | @join op' left right hl hr ihl ihr =>
    obtain ⟨hnodupl, hnodupr, hdisjoint⟩ := List.nodup_append.1 hnodup
    have hside : ∀ c ∈ cs, c ∈ left.atoms ∨ c ∈ right.atoms := fun c hc =>
      List.mem_append.1 (hcs c hc)
    by_cases hop : op' = op
    · subst hop
      -- the other side is made neutral, so that this one means its part of the leaves
      have hleft : left.joinsOnly op' = true := by
        have hpart : ∀ c ∈ cs.filter (· ∈ left.atoms), c ∈ left.atoms := by simp
        refine ihl hnodupl hpart fun v => ?_
        let w := Valuation.ofLeaves fun c => if c ∈ left.atoms then v.leaf c else op'.neutral
        have hright : right.holds w = op'.neutral := hr.holds_of_forall fun c hc =>
          if_neg fun hmem => hdisjoint c hmem c hc rfl
        rw [hl.holds_congr (w := w) fun c hc => (if_pos hc).symm, ← holds_join_right hright,
          hmeans]
        simp [w, Valuation.ofLeaves]
      have hright : right.joinsOnly op' = true := by
        have hpart : ∀ c ∈ cs.filter (· ∈ right.atoms), c ∈ right.atoms := by simp
        refine ihr hnodupr hpart fun v => ?_
        let w := Valuation.ofLeaves fun c => if c ∈ right.atoms then v.leaf c else op'.neutral
        have hleft : left.holds w = op'.neutral := hl.holds_of_forall fun c hc =>
          if_neg fun hmem => hdisjoint c hc c hmem rfl
        rw [hr.holds_congr (w := w) fun c hc => (if_pos hc).symm, ← holds_join_left hleft,
          hmeans]
        simp [w, Valuation.ofLeaves]
      simp [joinsOnly, hleft, hright]
    · -- each side decides alone, so the leaves are among those of both sides: there are none
      have honly : ∀ as : List Criteria, (left.holds (.ofLeaves fun c =>
          if c ∈ as then op.neutral else !op.neutral) = op.neutral ∨
          right.holds (.ofLeaves fun c =>
            if c ∈ as then op.neutral else !op.neutral) = op.neutral) → ∀ c ∈ cs, c ∈ as := by
        intro as has c hc
        have hneutral := (hmeans _).1 (holds_join_of_ne hop has) c hc
        by_contra hmem
        simp [Valuation.ofLeaves, hmem] at hneutral
      have hinl := honly left.atoms (.inl (hl.holds_of_forall fun c hc => if_pos hc))
      have hinr := honly right.atoms (.inr (hr.holds_of_forall fun c hc => if_pos hc))
      have hall := (hmeans (.ofLeaves fun _ => !op.neutral)).2 fun c hc =>
        absurd rfl (hdisjoint c (hinl c hc) c (hinr c hc))
      rw [(Scores.join op' hl hr).holds_of_forall fun c _ => rfl] at hall
      cases op <;> cases hall

theorem lifts_of_joinsOnly (hop : f.joinsOnly op = true) : ∀ l ∈ f.lifts, l.1 = op := by
  induction f with
  | atom c => simp [lifts]
  | not inner ih => simp [lifts]
  | join op' left right ihl ihr =>
    simp only [joinsOnly, Bool.and_eq_true, decide_eq_true_eq] at hop
    obtain ⟨⟨rfl, hl⟩, hr⟩ := hop
    intro l hmem
    simp only [lifts, List.mem_append, List.mem_map] at hmem
    rcases hmem with (hmem | hmem) | ⟨c, -, rfl⟩
    · exact ihl hl l hmem
    · exact ihr hr l hmem
    · rfl

/-- Under a single connective all leaves are lifted. -/
theorem Scores.mem_liftedUnder (h : f.Scores) (hleaf : f.leaf = []) (hop : f.joinsOnly op = true) :
    c ∈ liftedUnder op f.lifts ↔ c ∈ f.atoms := by
  rw [SearchQuery.mem_liftedUnder, h.mem_atoms, hleaf]
  constructor
  · exact fun hc => .inl ⟨op, hc⟩
  · rintro (⟨op', hc⟩ | hc)
    · obtain rfl : op' = op := lifts_of_joinsOnly hop _ hc
      exact hc
    · cases hc

theorem Scores.holds_scoringQuery_of_joinsOnly (h : f.Scores) (hleaf : f.leaf = [])
    (hop : f.joinsOnly op = true) : f.scoringQuery.holds v = f.holds v := by
  have hmem : ∀ {c}, c ∈ liftedUnder op f.lifts ↔ c ∈ f.atoms := h.mem_liftedUnder hleaf hop
  have hholds := h.holds_of_joinsOnly (v := v) hop
  cases op with
  | and =>
    have hmust : liftedUnder .and f.lifts ≠ [] := by
      obtain ⟨l, hl⟩ := List.exists_mem_of_ne_nil _ (h.lifts_ne_nil hleaf)
      refine List.ne_nil_of_mem (a := l.2) (SearchQuery.mem_liftedUnder.2 ?_)
      rwa [← lifts_of_joinsOnly hop l hl]
    rw [Bool.eq_iff_iff, h.holds_scoringQuery_of_must hleaf hmust]
    simp only [hmem]
    exact hholds.symm
  | or =>
    have hmust : liftedUnder .and f.lifts = [] := by
      refine List.eq_nil_iff_forall_not_mem.2 fun c hc => ?_
      cases lifts_of_joinsOnly hop _ (SearchQuery.mem_liftedUnder.1 hc)
    rw [Bool.eq_iff_iff, h.holds_scoringQuery_of_should hleaf hmust, ← Bool.not_eq_false,
      show f.holds v = false ↔ _ from hholds]
    simp [hmem, Connective.neutral]

/-- **Mixed connectives come apart.** Over distinct leaves, lifting keeps the meaning exactly where
all connectives are the same. -/
theorem Scores.liftsFaithfully_iff (h : f.Scores) (hnodup : f.atoms.Nodup) :
    f.liftsFaithfully = true ↔ ∃ op, f.joinsOnly op = true := by
  rw [← h.forall_holds_iff]
  by_cases hleaf : f.leaf = []
  · have hatom : ∀ op, ∀ c ∈ liftedUnder op f.lifts, c ∈ f.atoms := fun op c hc =>
      h.mem_atoms.2 (.inl ⟨op, SearchQuery.mem_liftedUnder.1 hc⟩)
    constructor
    · intro hall
      by_cases hmust : liftedUnder .and f.lifts = []
      · refine ⟨.or, h.joinsOnly_of_holds hnodup (hatom .or) fun v => ?_⟩
        rw [← hall, Connective.neutral, ← Bool.not_eq_true,
          h.holds_scoringQuery_of_should hleaf hmust]
        simp
      · refine ⟨.and, h.joinsOnly_of_holds hnodup (hatom .and) fun v => ?_⟩
        rw [← hall, Connective.neutral, h.holds_scoringQuery_of_must hleaf hmust]
    · rintro ⟨op, hop⟩ v
      exact h.holds_scoringQuery_of_joinsOnly hleaf hop
  · cases h with
    | atom h => exact ⟨fun _ => ⟨.and, rfl⟩, fun _ _ => rfl⟩
    | join => exact absurd rfl hleaf

end Formula

end SearchQuery
