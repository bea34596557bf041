import Mathlib.Data.List.Lattice
import Mathlib.Data.List.Nodup
import SearchQuery.Proofs.Plan.ScoringFormula

/-!
# Constants in formulas

Folding evaluates a connective only where both of its sides are constants, and lowering then drops
a constant that is true from either connective. The formula that is left is compared here with the
formula itself, under every truth assignment to the leaves.

* `Formula.folded?`, `Formula.value?`: the constant that folding leaves, and the constant that the
  formula is, for which one side of a connective may be enough.
* `exists_eval`: a formula over distinct leaves that is no constant takes both values.
* `keepsConstants_iff`: over distinct leaves, dropping keeps the meaning exactly where each
  connective that comes to a constant still comes to it.
-/

namespace SearchQuery

open Lowered (Connective)

namespace Criteria

/-- The criteria that a constant becomes. -/
def ofConstant : Bool → Criteria
  | true => .nop []
  | false => .not .matchAll

/-- The constant that a leaf of a predicate is, if any. -/
def constant? : Criteria → Option Bool
  | .nop [] => some true
  | .not .matchAll => some false
  | _ => none

theorem constant?_eq_some {c : Criteria} {b : Bool} : c.constant? = some b ↔ c = ofConstant b := by
  constructor
  · intro h
    unfold constant? at h
    split at h <;> cases h <;> rfl
  · rintro rfl
    cases b <;> rfl

end Criteria

namespace Lowered.Connective

/-- The connective of two answers. -/
def onAnswers : Connective → Bool → Bool → Bool
  | .and, a, b => a && b
  | .or, a, b => a || b

variable {op : Connective} {a b : Bool}

theorem onAnswers_neutral_left : op.onAnswers op.neutral b = b := by
  cases op <;> cases b <;> rfl

theorem onAnswers_neutral_right : op.onAnswers a op.neutral = a := by
  cases op <;> cases a <;> rfl

theorem onAnswers_eq_neutral :
    op.onAnswers a b = op.neutral ↔ a = op.neutral ∧ b = op.neutral := by
  cases op <;> simp [onAnswers, neutral]

/-- Either side decides by the other answer. -/
theorem onAnswers_eq_not_neutral :
    op.onAnswers a b = (!op.neutral) ↔ a = (!op.neutral) ∨ b = (!op.neutral) := by
  cases op <;> cases a <;> cases b <;> simp [onAnswers, neutral]

end Lowered.Connective

namespace Formula

variable {f left right : Formula} {op : Connective} {a a' : Criteria → Bool} {b : Bool}
  {cs : List Criteria}

/-! ### Truth assignments -/

/-- The leaves that are no constants. -/
def leaves (f : Formula) : List Criteria := f.atoms.filter (·.constant?.isNone)

/-- The answer of the formula where its leaves have these answers. -/
def eval (a : Criteria → Bool) : Formula → Bool
  | .atom c => c.constant?.getD (a c)
  | .not inner => !inner.eval a
  | .join op left right => op.onAnswers (left.eval a) (right.eval a)

theorem leaves_join : (join op left right).leaves = left.leaves ++ right.leaves :=
  List.filter_append ..

theorem holds_eq_eval (v : Valuation) (f : Formula) : f.holds v = f.eval (·.holds v) := by
  induction f with
  | atom c =>
    rw [holds, eval]
    cases hc : c.constant? with
    | none => rfl
    | some b =>
      obtain rfl := Criteria.constant?_eq_some.1 hc
      cases b <;> rfl
  | not inner ih => rw [holds, eval, ih]
  | join op left right ihl ihr => cases op <;> rw [holds, eval, ihl, ihr] <;> rfl

theorem eval_congr (h : ∀ c ∈ f.leaves, a c = a' c) : f.eval a = f.eval a' := by
  induction f with
  | atom c =>
    rw [eval, eval]
    cases hc : c.constant? with
    | none => exact h c (by simp [leaves, atoms, hc])
    | some b => rfl
  | not inner ih => rw [eval, eval, ih h]
  | join op left right ihl ihr =>
    rw [leaves_join, List.forall_mem_append] at h
    rw [eval, eval, ihl h.1, ihr h.2]

/-- The answers of one assignment for some leaves, and of another one elsewhere. -/
def splice (cs : List Criteria) (a a' : Criteria → Bool) (c : Criteria) : Bool :=
  if c ∈ cs then a c else a' c

theorem eval_splice_of_subset (h : f.leaves ⊆ cs) : f.eval (splice cs a a') = f.eval a :=
  eval_congr fun _ hc => if_pos (h hc)

theorem eval_splice_of_disjoint (h : cs.Disjoint f.leaves) :
    f.eval (splice cs a a') = f.eval a' :=
  eval_congr fun _ hc => if_neg fun hmem => h hmem hc

/-! ### Constants -/

/-- The constant that folding leaves: both sides of a connective have to be constants. -/
def folded? : Formula → Option Bool
  | .atom c => c.constant?
  | .not inner => inner.folded?.map (!·)
  | .join op left right => do return op.onAnswers (← left.folded?) (← right.folded?)

/-- The constant that the formula is: one side of a connective may decide. -/
def value? : Formula → Option Bool
  | .atom c => c.constant?
  | .not inner => inner.value?.map (!·)
  | .join op left right =>
    if left.value? = some (!op.neutral) ∨ right.value? = some (!op.neutral) then
      some (!op.neutral)
    else do return op.onAnswers (← left.value?) (← right.value?)

theorem folded?_join_eq_some : (join op left right).folded? = some b ↔
    ∃ l r, left.folded? = some l ∧ right.folded? = some r ∧ op.onAnswers l r = b := by
  simp [folded?, Option.bind_eq_some_iff]

/-- Neither side decides a connective that is no constant, and one of them is none either. -/
theorem value?_join_eq_none (h : (join op left right).value? = none) :
    left.value? ≠ some (!op.neutral) ∧ right.value? ≠ some (!op.neutral) ∧
      (left.value? = none ∨ right.value? = none) := by
  rw [value?] at h
  split_ifs at h with hdecides
  rw [not_or] at hdecides
  refine ⟨hdecides.1, hdecides.2, ?_⟩
  cases hl : left.value? with
  | none => exact .inl rfl
  | some l =>
    cases hr : right.value? with
    | none => exact .inr rfl
    | some r => simp [hl, hr] at h

theorem eq_neutral (hne : f.value? ≠ some (!op.neutral)) (h : f.value? = some b) :
    b = op.neutral := by
  rwa [h, ne_eq, Option.some.injEq, Bool.eq_not, not_not] at hne

theorem value?_of_folded? (h : f.folded? = some b) : f.value? = some b := by
  induction f generalizing b with
  | atom c => exact h
  | not inner ih =>
    obtain ⟨i, hi, rfl⟩ := Option.map_eq_some_iff.1 h
    rw [value?, ih hi]
    rfl
  | join op left right ihl ihr =>
    obtain ⟨l, r, hl, hr, rfl⟩ := folded?_join_eq_some.1 h
    rw [value?, ihl hl, ihr hr]
    split_ifs with hdecides
    · simp only [Option.some.injEq] at hdecides
      rw [Connective.onAnswers_eq_not_neutral.2 hdecides]
    · rfl

theorem eval_of_value? (h : f.value? = some b) (a : Criteria → Bool) : f.eval a = b := by
  induction f generalizing b with
  | atom c =>
    rw [eval, show c.constant? = some b from h]
    rfl
  | not inner ih =>
    obtain ⟨i, hi, rfl⟩ := Option.map_eq_some_iff.1 h
    rw [eval, ih hi]
  | join op left right ihl ihr =>
    rw [value?] at h
    rw [eval]
    split_ifs at h with hdecides
    · obtain rfl := Option.some.inj h
      exact Connective.onAnswers_eq_not_neutral.2 (hdecides.imp ihl ihr)
    · obtain ⟨l, hl, h⟩ := Option.bind_eq_some_iff.1 h
      obtain ⟨r, hr, h⟩ := Option.bind_eq_some_iff.1 h
      rw [ihl hl, ihr hr]
      exact Option.some.inj h

/-- **No constant, both values.** A formula over distinct leaves that is no constant takes each
value under some assignment. -/
theorem exists_eval (hnodup : f.leaves.Nodup) (h : f.value? = none) (b : Bool) :
    ∃ a, f.eval a = b := by
  induction f generalizing b with
  | atom c =>
    refine ⟨fun _ => b, ?_⟩
    rw [eval, show c.constant? = none from h]
    rfl
  | not inner ih =>
    obtain ⟨a, ha⟩ := ih hnodup (Option.map_eq_none_iff.1 h) (!b)
    exact ⟨a, by rw [eval, ha, Bool.not_not]⟩
  | join op left right ihl ihr =>
    rw [leaves_join] at hnodup
    obtain ⟨hnodupl, hnodupr, -⟩ := List.nodup_append.1 hnodup
    have hdisjoint : left.leaves.Disjoint right.leaves := List.disjoint_of_nodup_append hnodup
    obtain ⟨hl, hr, hnone⟩ := value?_join_eq_none h
    have hneutral : ∀ side : Formula, side.value? ≠ some (!op.neutral) →
        (side.value? = none → ∃ a, side.eval a = op.neutral) → ∃ a, side.eval a = op.neutral := by
      intro side hside hexists
      cases hvalue : side.value? with
      | none => exact hexists hvalue
      | some c => exact ⟨fun _ => true, (eval_of_value? hvalue _).trans (eq_neutral hside hvalue)⟩
    by_cases hb : b = op.neutral
    · subst hb
      obtain ⟨al, hal⟩ := hneutral left hl fun hnone => ihl hnodupl hnone _
      obtain ⟨ar, har⟩ := hneutral right hr fun hnone => ihr hnodupr hnone _
      refine ⟨splice left.leaves al ar, ?_⟩
      rw [eval, eval_splice_of_subset (List.Subset.refl _), eval_splice_of_disjoint hdisjoint, hal,
        har, Connective.onAnswers_neutral_left]
    · obtain rfl : b = !op.neutral := Bool.eq_not.2 hb
      rcases hnone with hnone | hnone
      · obtain ⟨a, ha⟩ := ihl hnodupl hnone (!op.neutral)
        exact ⟨a, Connective.onAnswers_eq_not_neutral.2 (.inl ha)⟩
      · obtain ⟨a, ha⟩ := ihr hnodupr hnone (!op.neutral)
        exact ⟨a, Connective.onAnswers_eq_not_neutral.2 (.inr ha)⟩

/-! ### Dropping what is true -/

/-- The formula that is lowered: next to what is no constant, a constant that is true is dropped,
whatever the connective. -/
def dropping : Formula → Formula
  | .atom c => .atom c
  | .not inner => .not inner.dropping
  | .join op left right =>
    if left.folded? = some true ∧ right.folded? = none then right.dropping
    else if right.folded? = some true ∧ left.folded? = none then left.dropping
    else .join op left.dropping right.dropping

/-- Whether each connective that comes to a constant still comes to it when dropped from. Below such
a connective nothing else counts. -/
def keepsConstants : Formula → Bool
  | .atom _ => true
  | .not inner => inner.keepsConstants
  | .join op left right =>
    match (join op left right).value? with
    | some b => (join op left right).dropping.value? = some b
    | none => left.keepsConstants && right.keepsConstants

theorem leaves_dropping (f : Formula) : f.dropping.leaves.Sublist f.leaves := by
  induction f with
  | atom c => exact List.Sublist.refl _
  | not inner ih => exact ih
  | join op left right ihl ihr =>
    rw [dropping, leaves_join]
    split_ifs
    · exact ihr.trans (List.sublist_append_right _ _)
    · exact ihl.trans (List.sublist_append_left _ _)
    · rw [leaves_join]
      exact ihl.append ihr

theorem folded?_dropping (h : f.folded? = some b) : f.dropping.folded? = some b := by
  induction f generalizing b with
  | atom c => exact h
  | not inner ih =>
    obtain ⟨i, hi, rfl⟩ := Option.map_eq_some_iff.1 h
    rw [dropping, folded?, ih hi]
    rfl
  | join op left right ihl ihr =>
    obtain ⟨l, r, hl, hr, rfl⟩ := folded?_join_eq_some.1 h
    rw [dropping, if_neg (by simp [hr]), if_neg (by simp [hl])]
    exact folded?_join_eq_some.2 ⟨l, r, ihl hl, ihr hr, rfl⟩

/-- What folding evaluates keeps its constants. -/
theorem keepsConstants_of_folded? (h : f.folded? = some b) : f.keepsConstants = true := by
  induction f generalizing b with
  | atom c => rfl
  | not inner ih =>
    obtain ⟨i, hi, -⟩ := Option.map_eq_some_iff.1 h
    exact ih hi
  | join op left right ihl ihr =>
    rw [keepsConstants, value?_of_folded? h]
    simpa using value?_of_folded? (folded?_dropping h)

/-- **Where dropping keeps the meaning.** It does where every connective that comes to a constant
still comes to it. -/
theorem eval_dropping (h : f.keepsConstants = true) (a : Criteria → Bool) :
    f.dropping.eval a = f.eval a := by
  induction f with
  | atom c => rfl
  | not inner ih => rw [dropping, eval, eval, ih h]
  | join op left right ihl ihr =>
    cases hvalue : (join op left right).value? with
    | some b =>
      rw [keepsConstants, hvalue] at h
      rw [eval_of_value? hvalue, eval_of_value? (of_decide_eq_true h)]
    | none =>
      rw [keepsConstants, hvalue] at h
      obtain ⟨hl, hr⟩ := Bool.and_eq_true_iff.1 h
      obtain ⟨hnel, hner, -⟩ := value?_join_eq_none hvalue
      rw [dropping]
      split_ifs with hleft hright
      · have htrue := value?_of_folded? hleft.1
        rw [eval, eval_of_value? htrue, eq_neutral hnel htrue, Connective.onAnswers_neutral_left,
          ihr hr]
      · have htrue := value?_of_folded? hright.1
        rw [eval, eval_of_value? htrue, eq_neutral hner htrue, Connective.onAnswers_neutral_right,
          ihl hl]
      · rw [eval, eval, ihl hl, ihr hr]

/-- Where dropping keeps the meaning of a connective that is no constant, it keeps that of both
sides: neither side decides under some assignment, and there each side can be looked at alone. -/
theorem eval_dropping_sides (hnodup : (join op left right).leaves.Nodup)
    (hvalue : (join op left right).value? = none)
    (h : ∀ a, (join op left.dropping right.dropping).eval a = (join op left right).eval a) :
    (∀ a, left.dropping.eval a = left.eval a) ∧ ∀ a, right.dropping.eval a = right.eval a := by
  obtain ⟨a₀, ha₀⟩ := exists_eval hnodup hvalue op.neutral
  have hdropped : (join op left.dropping right.dropping).eval a₀ = op.neutral := (h a₀).trans ha₀
  obtain ⟨hl, hr⟩ := Connective.onAnswers_eq_neutral.1 ha₀
  obtain ⟨hl', hr'⟩ := Connective.onAnswers_eq_neutral.1 hdropped
  rw [leaves_join] at hnodup
  have hdisjoint : left.leaves.Disjoint right.leaves := List.disjoint_of_nodup_append hnodup
  have hdisjointl : right.leaves.Disjoint left.dropping.leaves :=
    List.disjoint_of_subset_right (leaves_dropping left).subset hdisjoint.symm
  have hdisjointr : left.leaves.Disjoint right.dropping.leaves :=
    List.disjoint_of_subset_right (leaves_dropping right).subset hdisjoint
  constructor
  · intro a
    have hsplice := h (splice left.leaves a a₀)
    rwa [eval, eval, eval_splice_of_subset (leaves_dropping left).subset,
      eval_splice_of_disjoint hdisjointr, eval_splice_of_subset (List.Subset.refl _),
      eval_splice_of_disjoint hdisjoint, hr, hr', Connective.onAnswers_neutral_right,
      Connective.onAnswers_neutral_right] at hsplice
  · intro a
    have hsplice := h (splice right.leaves a a₀)
    rwa [eval, eval, eval_splice_of_subset (leaves_dropping right).subset,
      eval_splice_of_disjoint hdisjointl, eval_splice_of_subset (List.Subset.refl _),
      eval_splice_of_disjoint hdisjoint.symm, hl, hl', Connective.onAnswers_neutral_left,
      Connective.onAnswers_neutral_left] at hsplice

/-- A formula over distinct leaves that has one answer under every assignment is that constant. -/
theorem value?_of_eval (hnodup : f.leaves.Nodup) (h : ∀ a, f.eval a = b) : f.value? = some b := by
  cases hvalue : f.value? with
  | none =>
    obtain ⟨a, ha⟩ := exists_eval hnodup hvalue (!b)
    rw [h a, Bool.eq_not] at ha
    exact absurd rfl ha
  | some c => rw [← h fun _ => true, eval_of_value? hvalue]

/-- **Where dropping changes the meaning.** Over distinct leaves it does wherever some connective no
longer comes to its constant. -/
theorem keepsConstants_iff (hnodup : f.leaves.Nodup) :
    f.keepsConstants = true ↔ ∀ a, f.dropping.eval a = f.eval a := by
  refine ⟨eval_dropping, fun h => ?_⟩
  induction f with
  | atom c => rfl
  | not inner ih => exact ih hnodup fun a => Bool.not_inj (h a)
  | join op left right ihl ihr =>
    have hnodup' := hnodup
    rw [leaves_join] at hnodup'
    obtain ⟨hnodupl, hnodupr, -⟩ := List.nodup_append.1 hnodup'
    rw [keepsConstants]
    cases hvalue : (join op left right).value? with
    | some b =>
      refine decide_eq_true (value?_of_eval (hnodup.sublist (leaves_dropping _)) fun a => ?_)
      rw [h a, eval_of_value? hvalue]
    | none =>
      obtain ⟨hnel, hner, -⟩ := value?_join_eq_none hvalue
      refine Bool.and_eq_true_iff.2 ?_
      rw [dropping] at h
      split_ifs at h with hleft hright
      · have htrue := value?_of_folded? hleft.1
        refine ⟨keepsConstants_of_folded? hleft.1, ihr hnodupr fun a => ?_⟩
        rw [h a, eval, eval_of_value? htrue, eq_neutral hnel htrue,
          Connective.onAnswers_neutral_left]
      · have htrue := value?_of_folded? hright.1
        refine ⟨ihl hnodupl fun a => ?_, keepsConstants_of_folded? hright.1⟩
        rw [h a, eval, eval_of_value? htrue, eq_neutral hner htrue,
          Connective.onAnswers_neutral_right]
      · obtain ⟨hl, hr⟩ := eval_dropping_sides hnodup hvalue h
        exact ⟨ihl hnodupl hl, ihr hnodupr hr⟩

/-- The leaves are distinct, and every truth assignment to them is that of some document. -/
structure Independent (f : Formula) : Prop where
  nodup : f.leaves.Nodup
  exists_valuation : ∀ a : Criteria → Bool, ∃ v : Valuation, ∀ c ∈ f.leaves, c.holds v = a c

/-- Over independent leaves, documents are enough to tell where dropping changes the meaning. -/
theorem Independent.keepsConstants_iff (h : f.Independent) :
    f.keepsConstants = true ↔ ∀ v, f.dropping.holds v = f.holds v := by
  rw [Formula.keepsConstants_iff h.nodup]
  constructor
  · intro hall v
    rw [holds_eq_eval, holds_eq_eval, hall]
  · intro hall a
    obtain ⟨v, hv⟩ := h.exists_valuation a
    have hv' : ∀ c ∈ f.dropping.leaves, c.holds v = a c := fun c hc =>
      hv c ((leaves_dropping f).subset hc)
    have hsame := hall v
    rwa [holds_eq_eval, holds_eq_eval, eval_congr hv, eval_congr hv'] at hsame

end Formula

end SearchQuery
