import SearchQuery.Expression.Folding
import SearchQuery.Projection.Basic
import SearchQuery.Proofs.Binary64.Rounding

/-!
# Operators on integers

A constant integer lies between `-2 ^ 63` and `2 ^ 64 - 1`. Two integers below `2 ^ 63` are computed
with as integers; any other two are computed with as the binary64 numbers nearest to them.

* `BinaryOperator.exactResult?`: what a comparison, a sum, a difference or a product is
  mathematically.
* `compareValues_int`: the order two integers are found to have.
* `apply_comparison_iff`, `apply_arithmetic_iff`: where the exact result is the only one.
* `apply_integers_iff`: the same for an operator, for a folded constant and for a projected value.
-/

namespace SearchQuery

variable {op : BinaryOperator} {a b : Int} {v : Json}

/-- An integer that a JSON text can hold. -/
def Json.IsInteger (i : Int) : Prop := -2 ^ 63 ≤ i ∧ i < 2 ^ 64

instance (i : Int) : Decidable (Json.IsInteger i) :=
  inferInstanceAs (Decidable (-2 ^ 63 ≤ i ∧ i < 2 ^ 64))

/-- Both integers are below `2 ^ 63`. -/
def Json.AreSigned (a b : Int) : Prop := a < 2 ^ 63 ∧ b < 2 ^ 63

instance (a b : Int) : Decidable (Json.AreSigned a b) :=
  inferInstanceAs (Decidable (a < 2 ^ 63 ∧ b < 2 ^ 63))

/-- The outcome is the value or a fault. -/
def GivesOrFaults {α : Type} (outcome : Except Fault α) (v : α) : Prop :=
  outcome = .ok v ∨ ∃ fault, outcome = .error fault

@[simp]
theorem givesOrFaults_ok {α : Type} {v w : α} : GivesOrFaults (.ok w) v ↔ w = v := by
  simp [GivesOrFaults]

@[simp]
theorem givesOrFaults_error {α : Type} {fault : Fault} {v : α} :
    GivesOrFaults (.error fault) v := by
  simp [GivesOrFaults]

namespace BinaryOperator

def isComparison : BinaryOperator → Bool
  | .equal | .notEqual | .lessThan | .lessThanOrEqual | .greaterThan | .greaterThanOrEqual => true
  | _ => false

/-- The exact result of a comparison, a sum, a difference or a product of integers. -/
def exactResult? (op : BinaryOperator) (a b : Int) : Option Json :=
  match op with
  | .equal => some (.bool (decide (a = b)))
  | .notEqual => some (.bool (decide (a ≠ b)))
  | .lessThan => some (.bool (decide (a < b)))
  | .lessThanOrEqual => some (.bool (decide (a ≤ b)))
  | .greaterThan => some (.bool (decide (b < a)))
  | .greaterThanOrEqual => some (.bool (decide (b ≤ a)))
  | .add => some (.int (a + b))
  | .subtract => some (.int (a - b))
  | .multiply => some (.int (a * b))
  | _ => none

/-! ### Comparisons -/

/-- Whether an order of the operands satisfies a comparison. -/
def satisfiedBy (op : BinaryOperator) (order : Ordering) : Bool :=
  match op with
  | .equal => order == .eq
  | .notEqual => order != .eq
  | op => op.holdsFor order

theorem exactResult?_of_isComparison (h : op.isComparison = true) (a b : Int) :
    op.exactResult? a b = some (.bool (op.satisfiedBy (compare a b))) := by
  have hlt : (compare a b == .lt) = decide (a < b) := by
    rw [Bool.eq_iff_iff, beq_iff_eq, compare_lt_iff_lt, decide_eq_true_iff]
  have hgt : (compare a b == .gt) = decide (b < a) := by
    rw [Bool.eq_iff_iff, beq_iff_eq, compare_gt_iff_gt, decide_eq_true_iff]
  have heq : (compare a b == .eq) = decide (a = b) := by
    rw [Bool.eq_iff_iff, beq_iff_eq, compare_eq_iff_eq, decide_eq_true_iff]
  have hnot : ∀ c d : Int, decide (c ≤ d) = !decide (d < c) := by
    intro c d
    rw [← decide_not, decide_eq_decide]
    exact not_lt.symm
  cases op <;> simp only [isComparison, Bool.false_eq_true] at h <;>
    simp [exactResult?, satisfiedBy, holdsFor, bne, hlt, hgt, heq, hnot]

theorem apply_of_isComparison (h : op.isComparison = true) {order : Ordering}
    (horder : compareValues (.int a) (.int b) = some order) :
    op.apply (.int a) (.int b) = .ok (.bool (op.satisfiedBy order)) := by
  cases op <;> simp [isComparison] at h <;>
    simp [apply, looselyEqual, relational, satisfiedBy, horder, Json.isNull, bne]

/-- Whether the exact result is the only one an operator can give: both integers are below
`2 ^ 63`, or a comparison does not change when they are replaced by one number nearest to both. -/
def IsExactOn (op : BinaryOperator) (a b : Int) : Prop :=
  Json.AreSigned a b ∨
    (op.isComparison = true ∧
      (Binary64.ofInt a = Binary64.ofInt b → op.exactResult? a a = op.exactResult? a b))

end BinaryOperator

theorem int64?_int (h : Json.IsInteger a) :
    (Json.int a).int64? = if a < 2 ^ 63 then some a else none := by
  have hrange : (-Int.pow 2 63 ≤ a ∧ a < Int.pow 2 63) ↔ a < 2 ^ 63 := and_iff_right h.1
  simp only [Json.int64?, hrange]

/-- The order two integers are found to have: their own, unless they are compared as binary64
numbers and have one nearest number. -/
theorem compareValues_int (ha : Json.IsInteger a) (hb : Json.IsInteger b) :
    compareValues (.int a) (.int b) =
      some (if Json.AreSigned a b ∨ Binary64.ofInt a ≠ Binary64.ofInt b then compare a b
        else .eq) := by
  simp only [compareValues, int64?_int ha, int64?_int hb, Json.float?, Binary64.cmp_ofInt]
  by_cases hsmall : Json.AreSigned a b
  · simp only [hsmall, hsmall.1, hsmall.2, true_or, if_true]
  · have hnone : a < 2 ^ 63 → ¬b < 2 ^ 63 := fun h h' => hsmall ⟨h, h'⟩
    simp only [hsmall, false_or, ite_not]
    split_ifs with h h' <;> first | rfl | exact absurd h' (hnone h)

namespace BinaryOperator

theorem apply_comparison_iff (h : op.isComparison = true) (ha : Json.IsInteger a)
    (hb : Json.IsInteger b) (hv : op.exactResult? a b = some v) :
    GivesOrFaults (op.apply (.int a) (.int b)) v ↔ op.IsExactOn a b := by
  have hself : op.exactResult? a a = some (.bool (op.satisfiedBy .eq)) := by
    rw [exactResult?_of_isComparison h, compare_eq_iff_eq.2 rfl]
  have hexact := exactResult?_of_isComparison h a b
  obtain rfl : .bool (op.satisfiedBy (compare a b)) = v := Option.some.inj (hexact.symm.trans hv)
  rw [apply_of_isComparison h (compareValues_int ha hb), givesOrFaults_ok, IsExactOn, hself, hexact]
  by_cases hsmall : Json.AreSigned a b
  · simp [hsmall]
  · by_cases hsame : Binary64.ofInt a = Binary64.ofInt b
    · simp [hsmall, hsame, h]
    · simp [hsame, h]

/-! ### Arithmetic -/

theorem onIntegers_of_exactResult? {i : Int} (hv : op.exactResult? a b = some (.int i)) :
    op.onIntegers a b = fitInt64 i := by
  cases op <;> simp [exactResult?] at hv <;> simp [onIntegers, hv]

theorem apply_eq_arithmetic {i : Int} (hv : op.exactResult? a b = some (.int i)) :
    op.apply (.int a) (.int b) = op.arithmetic (.int a) (.int b) := by
  cases op <;> simp [exactResult?] at hv <;> rfl

/-- Two integers below `2 ^ 63` give the exact integer or a fault. -/
theorem arithmetic_small {i : Int} (ha : Json.IsInteger a) (hb : Json.IsInteger b)
    (hsmall : Json.AreSigned a b) (hv : op.exactResult? a b = some (.int i)) :
    GivesOrFaults (op.arithmetic (.int a) (.int b)) (.int i) := by
  simp only [arithmetic, int64?_int ha, int64?_int hb, hsmall.1, hsmall.2, if_true, Json.isNull,
    Bool.or_self, Bool.false_eq_true, if_false, onIntegers_of_exactResult? hv, fitInt64]
  split_ifs <;> simp

/-- An integer from `2 ^ 63` on makes the result a binary64 number. -/
theorem arithmetic_large {i : Int} (ha : Json.IsInteger a) (hb : Json.IsInteger b)
    (hlarge : ¬Json.AreSigned a b) (hv : op.exactResult? a b = some (.int i)) :
    ∃ z, op.arithmetic (.int a) (.int b) = .ok (.float z) := by
  have hmoderate : ∀ {c : Int}, Json.IsInteger c → (Binary64.ofInt c).IsModerate := by
    intro c hc
    unfold Json.IsInteger at hc
    exact Binary64.ofInt_isModerate (by omega)
  have hfinite : ∃ z, op.onFloats (.ofInt a) (.ofInt b) = .finite z := by
    cases op with
    | add => exact Binary64.exists_add (hmoderate ha) (hmoderate hb)
    | subtract => exact Binary64.exists_sub (hmoderate ha) (hmoderate hb)
    | multiply => exact Binary64.exists_mul (hmoderate ha) (hmoderate hb)
    | _ => simp [exactResult?] at hv
  obtain ⟨z, hz⟩ := hfinite
  refine ⟨z, ?_⟩
  simp only [arithmetic, int64?_int ha, int64?_int hb, Json.isNull, Bool.or_self,
    Bool.false_eq_true, if_false, Json.float?, hz, finite]
  split_ifs with h h' <;> first | rfl | exact absurd ⟨h, h'⟩ hlarge

theorem apply_arithmetic_iff {i : Int} (ha : Json.IsInteger a) (hb : Json.IsInteger b)
    (hv : op.exactResult? a b = some (.int i)) :
    GivesOrFaults (op.apply (.int a) (.int b)) (.int i) ↔ op.IsExactOn a b := by
  have hcomparison : op.isComparison = false := by
    cases op <;> simp [exactResult?] at hv <;> rfl
  rw [apply_eq_arithmetic hv, IsExactOn, hcomparison]
  by_cases hsmall : Json.AreSigned a b
  · simp [hsmall, arithmetic_small ha hb hsmall hv]
  · obtain ⟨z, hz⟩ := arithmetic_large ha hb hsmall hv
    simp [hsmall, hz]

theorem apply_exact_iff (ha : Json.IsInteger a) (hb : Json.IsInteger b)
    (hv : op.exactResult? a b = some v) :
    GivesOrFaults (op.apply (.int a) (.int b)) v ↔ op.IsExactOn a b := by
  by_cases hcomparison : op.isComparison = true
  · exact apply_comparison_iff hcomparison ha hb hv
  · have hint : ∃ i, v = .int i := by
      cases op <;> simp_all [isComparison, exactResult?] <;> exact ⟨_, hv.symm⟩
    obtain ⟨i, rfl⟩ := hint
    exact apply_arithmetic_iff ha hb hv

end BinaryOperator

/-! ### Folded constants and projected values -/

theorem Expression.fold_constants (op : BinaryOperator) (l r : Json) :
    (Expression.binary op (.constant l) (.constant r)).fold = (op.apply l r).map .constant := rfl

theorem Expression.givesOrFaults_fold {l r : Json} :
    GivesOrFaults (Expression.binary op (.constant l) (.constant r)).fold (.constant v) ↔
      GivesOrFaults (op.apply l r) v := by
  rw [fold_constants]
  rcases op.apply l r with fault | w <;> simp [Except.map]

theorem ProjectionNode.evaluate_binary {row : Row} {left right : ProjectionNode} {l r : Json}
    (hl : left.evaluate row = .ok l) (hr : right.evaluate row = .ok r) :
    (ProjectionNode.binary op left right).evaluate row = ofFault (op.apply l r) := by
  simp only [evaluate, hl, hr]
  rfl

theorem ProjectionNode.ofFault_gives_iff {outcome : Except Fault Json} :
    (ofFault outcome = .ok v ∨ ∃ fault, ofFault outcome = .error (.evaluation fault)) ↔
      GivesOrFaults outcome v := by
  rcases outcome with fault | w <;> simp [ofFault]

/-- **Where integers are computed with exactly.** A comparison, a sum, a difference or a product of
two constant integers gives its exact result or a fault just where `IsExactOn` holds, and so do the
constant it is folded to and the value projected from operands with these values. -/
theorem BinaryOperator.apply_integers_iff (ha : Json.IsInteger a) (hb : Json.IsInteger b)
    (hv : op.exactResult? a b = some v) :
    (GivesOrFaults (op.apply (.int a) (.int b)) v ↔ op.IsExactOn a b) ∧
      (GivesOrFaults (Expression.binary op (.constant (.int a)) (.constant (.int b))).fold
          (.constant v) ↔ op.IsExactOn a b) ∧
      ∀ {row : Row} {left right : ProjectionNode}, left.evaluate row = .ok (.int a) →
        right.evaluate row = .ok (.int b) →
        (((ProjectionNode.binary op left right).evaluate row = .ok v ∨
            ∃ fault, (ProjectionNode.binary op left right).evaluate row =
              .error (.evaluation fault)) ↔ op.IsExactOn a b) := by
  have happly := apply_exact_iff ha hb hv
  refine ⟨happly, Expression.givesOrFaults_fold.trans happly, ?_⟩
  intro row left right hl hr
  rw [ProjectionNode.evaluate_binary hl hr]
  exact ProjectionNode.ofFault_gives_iff.trans happly

/-- A small integer is found to be below the largest one: by the operator itself, in a folded
constant and in a value projected from a hit. -/
theorem BinaryOperator.apply_integers_iff_lessThan :
    Json.IsInteger 7 ∧ Json.IsInteger (2 ^ 64 - 1) ∧
      BinaryOperator.lessThan.exactResult? 7 (2 ^ 64 - 1) = some (.bool true) ∧
      BinaryOperator.lessThan.IsExactOn 7 (2 ^ 64 - 1) ∧
      GivesOrFaults (BinaryOperator.lessThan.apply (.int 7) (.int (2 ^ 64 - 1))) (.bool true) ∧
      GivesOrFaults (Expression.binary .lessThan (.constant (.int 7))
        (.constant (.int (2 ^ 64 - 1)))).fold (.constant (.bool true)) ∧
      ∃ row left right, ProjectionNode.evaluate row left = .ok (.int 7) ∧
        ProjectionNode.evaluate row right = .ok (.int (2 ^ 64 - 1)) ∧
        ((ProjectionNode.binary .lessThan left right).evaluate row = .ok (.bool true) ∨
          ∃ fault, (ProjectionNode.binary .lessThan left right).evaluate row =
            .error (.evaluation fault)) := by
  have hseven : Json.IsInteger 7 := by decide
  have hlargest : Json.IsInteger (2 ^ 64 - 1) := by decide
  have hvalue : BinaryOperator.lessThan.exactResult? 7 (2 ^ 64 - 1) = some (.bool true) := by decide
  have hdistinct : Binary64.ofInt 7 ≠ Binary64.ofInt (2 ^ 64 - 1) := by decide +kernel
  have hexact : BinaryOperator.lessThan.IsExactOn 7 (2 ^ 64 - 1) :=
    .inr ⟨rfl, fun h => absurd h hdistinct⟩
  obtain ⟨happly, hfold, hproject⟩ :=
    BinaryOperator.apply_integers_iff hseven hlargest hvalue
  refine ⟨hseven, hlargest, hvalue, hexact, happly.2 hexact, hfold.2 hexact, ?_⟩
  exact ⟨.hit ⟨"films", "films", "1", none, none, []⟩, .constant (.int 7),
    .constant (.int (2 ^ 64 - 1)), rfl, rfl, (hproject rfl rfl).2 hexact⟩

/-- The two largest integers have one nearest number, so they are found equal. -/
theorem BinaryOperator.equal_rounds :
    Json.IsInteger (2 ^ 64 - 1) ∧ Json.IsInteger (2 ^ 64 - 2) ∧
      BinaryOperator.equal.exactResult? (2 ^ 64 - 1) (2 ^ 64 - 2) = some (.bool false) ∧
      BinaryOperator.equal.apply (.int (2 ^ 64 - 1)) (.int (2 ^ 64 - 2)) = .ok (.bool true) := by
  refine ⟨by decide, by decide, by decide, ?_⟩
  have horder : compareValues (.int (2 ^ 64 - 1)) (.int (2 ^ 64 - 2)) = some .eq := by
    decide +kernel
  exact BinaryOperator.apply_of_isComparison rfl horder

end SearchQuery
