import Mathlib.Algebra.Group.Nat.Defs
import Mathlib.Algebra.Ring.Int.Defs
import Mathlib.Data.Nat.Log
import Mathlib.Order.Monotone.Basic
import Mathlib.Tactic.Common
import SearchQuery.Binary64.Basic

/-!
# Rounding keeps the order

Magnitudes grow with their rank, and the rank of the number nearest an integer does not fall as the
integer grows. So the order of two integers can get lost when both are rounded, but never turns
round.

* `magnitudeOfRank`: magnitude by rank, which is strictly monotone.
* `rankOfRatio_mono`: rounding is monotone; `rankOfRatio_le`: a rank is bounded by the bit length.
* `cmp_ofInt`: the numbers nearest two integers compare as these do, unless they are the same
  number.
* `exists_add`, `exists_sub`, `exists_mul`: arithmetic on numbers nearest 64-bit integers is finite.
-/

namespace SearchQuery

namespace Binary64

variable {x y : Binary64} {a b : Int} {n m den : Nat}

/-! ### Magnitudes by rank -/

/-- The magnitude in units that has a rank. -/
def magnitudeOfRank (rank : Nat) : Nat :=
  if rank < 2 ^ 52 then rank else (2 ^ 52 + rank % 2 ^ 52) * 2 ^ (rank / 2 ^ 52 - 1)

theorem magnitude_eq (x : Binary64) : x.magnitude = magnitudeOfRank x.rank := by
  have hsubnormal : x.rank < 2 ^ 52 → x.rank / 2 ^ 52 - 1 = 0 := by omega
  unfold magnitude significand exponent magnitudeOfRank
  simp only [Nat.pow_eq]
  split_ifs with hrank
  · rw [hsubnormal hrank, Nat.pow_zero, Nat.mul_one]
  · rfl

theorem magnitudeOfRank_lt_succ (rank : Nat) :
    magnitudeOfRank rank < magnitudeOfRank (rank + 1) := by
  unfold magnitudeOfRank
  by_cases hlow : rank + 1 < 2 ^ 52
  · rw [if_pos (by omega), if_pos hlow]
    omega
  · rw [if_neg hlow]
    by_cases hlast : rank < 2 ^ 52
    · -- The last subnormal magnitude is followed by the first normal one.
      have hrank : rank + 1 = 2 ^ 52 := by omega
      rw [if_pos hlast, hrank]
      omega
    · rw [if_neg hlast]
      by_cases hbinade : rank % 2 ^ 52 + 1 < 2 ^ 52
      · have hexponent : (rank + 1) / 2 ^ 52 = rank / 2 ^ 52 := by omega
        have hsignificand : 2 ^ 52 + rank % 2 ^ 52 < 2 ^ 52 + (rank + 1) % 2 ^ 52 := by omega
        rw [hexponent]
        exact Nat.mul_lt_mul_of_pos_right hsignificand (Nat.two_pow_pos _)
      · -- In the next binade the significand starts anew, with twice the step.
        have hexponent : (rank + 1) / 2 ^ 52 - 1 = rank / 2 ^ 52 - 1 + 1 := by omega
        have hstep : 2 ^ (rank / 2 ^ 52 - 1 + 1) = 2 * 2 ^ (rank / 2 ^ 52 - 1) := Nat.pow_succ'
        have hdouble : 2 ^ 52 + rank % 2 ^ 52 < (2 ^ 52 + (rank + 1) % 2 ^ 52) * 2 := by omega
        rw [hexponent, hstep, ← Nat.mul_assoc]
        exact Nat.mul_lt_mul_of_pos_right hdouble (Nat.two_pow_pos _)

theorem magnitudeOfRank_strictMono : StrictMono magnitudeOfRank :=
  strictMono_nat_of_lt_succ magnitudeOfRank_lt_succ

/-- The first magnitude of a binade. -/
theorem magnitudeOfRank_binade (k : Nat) : magnitudeOfRank ((k + 1) * 2 ^ 52) = 2 ^ 52 * 2 ^ k := by
  have hrank : ¬(k + 1) * 2 ^ 52 < 2 ^ 52 := by omega
  have hexponent : (k + 1) * 2 ^ 52 / 2 ^ 52 - 1 = k := by omega
  rw [magnitudeOfRank, if_neg hrank, hexponent, Nat.mul_mod_left, Nat.add_zero]

/-! ### Ranks of integers -/

theorem roundHalfEven_bounds (num den : Nat) :
    num / den ≤ roundHalfEven num den ∧ roundHalfEven num den ≤ num / den + 1 := by
  unfold roundHalfEven
  dsimp only
  split_ifs <;> omega

theorem roundHalfEven_mono (h : n ≤ m) (den : Nat) :
    roundHalfEven n den ≤ roundHalfEven m den := by
  have hquotient : n / den ≤ m / den := Nat.div_le_div_right h
  rcases hquotient.lt_or_eq with hlt | heq
  · have hn := (roundHalfEven_bounds n den).2
    have hm := (roundHalfEven_bounds m den).1
    omega
  · -- With one quotient the larger remainder is not rounded down alone.
    have hremainder : n % den ≤ m % den := by
      have hnsum := Nat.div_add_mod n den
      have hmsum := Nat.div_add_mod m den
      rw [heq] at hnsum
      omega
    unfold roundHalfEven
    dsimp only
    rw [heq]
    split_ifs <;> omega

/-- The binary exponent of the step between the numbers near a ratio. -/
def stepExponent (n : Nat) : Nat := n.log2 - 52

theorem rankOfRatio_eq (num den : Nat) :
    rankOfRatio num den =
      stepExponent (num / den) * 2 ^ 52 +
        roundHalfEven num (den * 2 ^ stepExponent (num / den)) := rfl

theorem log2_mono (h : n ≤ m) : n.log2 ≤ m.log2 := by
  rw [Nat.log2_eq_log_two, Nat.log2_eq_log_two]
  exact Nat.log_mono_right h

theorem div_step_lt (n : Nat) : n / 2 ^ stepExponent n < 2 ^ 53 := by
  have hbits : n < 2 ^ 53 * 2 ^ stepExponent n := by
    have hlength : n.log2 + 1 ≤ 53 + stepExponent n := by
      unfold stepExponent
      omega
    rw [← Nat.pow_add]
    exact Nat.lt_of_lt_of_le Nat.lt_log2_self (Nat.pow_le_pow_right (by decide) hlength)
  exact (Nat.div_lt_iff_lt_mul (Nat.two_pow_pos _)).2 hbits

theorem le_div_step (h : 0 < stepExponent n) : 2 ^ 52 ≤ n / 2 ^ stepExponent n := by
  have hne : n ≠ 0 := by
    rintro rfl
    exact absurd h (by decide)
  have hbits : 2 ^ 52 * 2 ^ stepExponent n ≤ n := by
    have hlength : 52 + stepExponent n = n.log2 := by
      unfold stepExponent at h ⊢
      omega
    rw [← Nat.pow_add, hlength]
    exact Nat.log2_self_le hne
  exact (Nat.le_div_iff_mul_le (Nat.two_pow_pos _)).2 hbits

theorem rankOfRatio_le (num den : Nat) :
    rankOfRatio num den ≤ (stepExponent (num / den) + 2) * 2 ^ 52 := by
  have hround := (roundHalfEven_bounds num (den * 2 ^ stepExponent (num / den))).2
  have hquotient := div_step_lt (num / den)
  rw [Nat.div_div_eq_div_mul] at hquotient
  rw [rankOfRatio_eq]
  omega

theorem le_rankOfRatio (h : 0 < stepExponent (n / den)) :
    (stepExponent (n / den) + 1) * 2 ^ 52 ≤ rankOfRatio n den := by
  have hround := (roundHalfEven_bounds n (den * 2 ^ stepExponent (n / den))).1
  have hquotient := le_div_step h
  rw [Nat.div_div_eq_div_mul] at hquotient
  rw [rankOfRatio_eq]
  omega

/-- **Rounding is monotone.** -/
theorem rankOfRatio_mono (h : n ≤ m) (den : Nat) : rankOfRatio n den ≤ rankOfRatio m den := by
  have hstep : stepExponent (n / den) ≤ stepExponent (m / den) :=
    Nat.sub_le_sub_right (log2_mono (Nat.div_le_div_right h)) 52
  rcases hstep.lt_or_eq with hlt | heq
  · -- The ranks lie in different binades.
    have hn := rankOfRatio_le n den
    have hm := le_rankOfRatio (Nat.zero_lt_of_lt hlt)
    omega
  · rw [rankOfRatio_eq, rankOfRatio_eq, heq]
    exact Nat.add_le_add_left (roundHalfEven_mono h _) _

/-! ### Numbers nearest integers -/

/-- The binary exponent of one, in units. -/
def unitExponent : Nat := 1074

theorem unitsPerOne_eq : unitsPerOne = 2 ^ unitExponent := by
  -- A variable in the exponent keeps the power from being computed.
  have hpow : ∀ k, 1074 = k → unitsPerOne = 2 ^ k := by
    intro k hk
    delta unitsPerOne
    rw [hk]
    rfl
  exact hpow unitExponent rfl

theorem unitsPerOne_pos : 0 < unitsPerOne := by
  rw [unitsPerOne_eq]
  exact Nat.two_pow_pos _

theorem ofInt_rank_mono (h : a.natAbs ≤ b.natAbs) : (ofInt a).rank ≤ (ofInt b).rank := by
  have hrank := rankOfRatio_mono (Nat.mul_le_mul_right unitsPerOne h) 1
  exact Nat.le_min.2 ⟨(Nat.min_le_left _ _).trans hrank, Nat.min_le_right _ _⟩

theorem ofInt_magnitude_mono (h : a.natAbs ≤ b.natAbs) :
    (ofInt a).magnitude ≤ (ofInt b).magnitude := by
  rw [magnitude_eq, magnitude_eq]
  exact magnitudeOfRank_strictMono.monotone (ofInt_rank_mono h)

theorem ofInt_rank_pos (h : a ≠ 0) : 0 < (ofInt a).rank := by
  have hunits : 2 ^ unitExponent ≤ a.natAbs * unitsPerOne / 1 := by
    rw [Nat.div_one, unitsPerOne_eq]
    exact Nat.le_mul_of_pos_left _ (Int.natAbs_pos.2 h)
  have hne : a.natAbs * unitsPerOne / 1 ≠ 0 :=
    Nat.ne_of_gt (Nat.lt_of_lt_of_le (Nat.two_pow_pos _) hunits)
  have hstep : 0 < stepExponent (a.natAbs * unitsPerOne / 1) := by
    have hlength : unitExponent ≤ (a.natAbs * unitsPerOne / 1).log2 := (Nat.le_log2 hne).2 hunits
    unfold unitExponent at hlength
    unfold stepExponent
    omega
  have hrank := le_rankOfRatio hstep
  show 0 < min (rankOfRatio (a.natAbs * unitsPerOne) 1) (2047 * Nat.pow 2 52 - 1)
  rw [Nat.lt_min]
  refine ⟨?_, by decide⟩
  omega

theorem ofInt_scaled (a : Int) :
    (ofInt a).scaled = if a < 0 then -((ofInt a).magnitude : Int) else (ofInt a).magnitude := by
  simp [scaled, ofInt]

theorem ofInt_scaled_mono (h : a ≤ b) : (ofInt a).scaled ≤ (ofInt b).scaled := by
  rw [ofInt_scaled, ofInt_scaled]
  split_ifs with ha hb hb
  · have hmagnitude : (ofInt b).magnitude ≤ (ofInt a).magnitude :=
      ofInt_magnitude_mono (by omega)
    omega
  · omega
  · omega
  · have hmagnitude : (ofInt a).magnitude ≤ (ofInt b).magnitude :=
      ofInt_magnitude_mono (by omega)
    omega

theorem ofInt_eq_of_scaled_eq (h : (ofInt a).scaled = (ofInt b).scaled) : ofInt a = ofInt b := by
  have hrank : (ofInt a).magnitude = (ofInt b).magnitude → (ofInt a).rank = (ofInt b).rank := by
    rw [magnitude_eq, magnitude_eq]
    exact fun hmagnitude => magnitudeOfRank_strictMono.injective hmagnitude
  have hzero : ∀ {i : Int}, i < 0 → 0 < (ofInt i).magnitude := by
    intro i hi
    rw [magnitude_eq]
    exact magnitudeOfRank_strictMono (ofInt_rank_pos (by omega))
  have hext : decide (a < 0) = decide (b < 0) → (ofInt a).rank = (ofInt b).rank →
      ofInt a = ofInt b := by
    intro hsign heq
    rw [Binary64.mk.injEq]
    exact ⟨hsign, heq⟩
  rw [ofInt_scaled, ofInt_scaled] at h
  split_ifs at h with ha hb hb
  · exact hext (by simp [ha, hb]) (hrank (by omega))
  · have hpos := hzero ha
    omega
  · have hpos := hzero hb
    omega
  · exact hext (by simp [ha, hb]) (hrank (by omega))

/-- **The order is kept.** The numbers nearest two integers compare as these do, unless the two have
one nearest number. -/
theorem cmp_ofInt (a b : Int) :
    (ofInt a).cmp (ofInt b) = if ofInt a = ofInt b then .eq else compare a b := by
  unfold cmp
  split_ifs with hsame
  · rw [hsame]
    exact compare_eq_iff_eq.2 rfl
  · have hne : (ofInt a).scaled ≠ (ofInt b).scaled := fun h => hsame (ofInt_eq_of_scaled_eq h)
    rcases lt_trichotomy a b with hlt | rfl | hgt
    · have hscaled := lt_of_le_of_ne (ofInt_scaled_mono hlt.le) hne
      rw [compare_lt_iff_lt.2 hscaled, compare_lt_iff_lt.2 hlt]
    · exact absurd rfl hsame
    · have hscaled := lt_of_le_of_ne (ofInt_scaled_mono hgt.le) hne.symm
      rw [compare_gt_iff_gt.2 hscaled, compare_gt_iff_gt.2 hgt]

/-! ### Results without overflow -/

theorem exists_ofRatio (negative : Bool) {k : Nat} (hk : k ≤ 2000) (h : n / den < 2 ^ k) :
    ∃ z, ofRatio negative n den = .finite z := by
  have hlength : (n / den).log2 ≤ 2000 := by
    by_cases hzero : n / den = 0
    · rw [hzero]
      decide
    · have hlt := (Nat.log2_lt hzero).2 h
      omega
  have hrank : rankOfRatio n den < 2047 * Nat.pow 2 52 := by
    have hle := rankOfRatio_le n den
    have hstep : stepExponent (n / den) + 2 ≤ 1950 := by
      unfold stepExponent
      omega
    have hbinade := Nat.mul_le_mul_right (2 ^ 52) hstep
    simp only [Nat.pow_eq]
    omega
  refine ⟨⟨negative, rankOfRatio n den, hrank⟩, ?_⟩
  rw [ofRatio, ofRank, dif_pos hrank]

/-- The length of a scaled number; the scale is general, so that no power is evaluated. -/
theorem log2_scaled_le {k e : Nat} (h : n ≤ 2 ^ k) : (n * 2 ^ e).log2 ≤ k + e := by
  have hscaled : n * 2 ^ e ≤ 2 ^ (k + e) := by
    rw [Nat.pow_add]
    exact Nat.mul_le_mul_right _ h
  have hmono := log2_mono hscaled
  rwa [Nat.log2_two_pow] at hmono

/-- A magnitude that the number nearest a 64-bit integer may have. -/
def IsModerate (x : Binary64) : Prop := x.magnitude ≤ 2 ^ 65 * unitsPerOne

theorem ofInt_isModerate (h : a.natAbs ≤ 2 ^ 64) : (ofInt a).IsModerate := by
  have hlength : (a.natAbs * unitsPerOne / 1).log2 ≤ 64 + unitExponent := by
    rw [Nat.div_one, unitsPerOne_eq]
    exact log2_scaled_le h
  have hrank : (ofInt a).rank ≤ (13 + unitExponent + 1) * 2 ^ 52 := by
    have hle := rankOfRatio_le (a.natAbs * unitsPerOne) 1
    have hstep : stepExponent (a.natAbs * unitsPerOne / 1) + 2 ≤ 13 + unitExponent + 1 := by
      unfold unitExponent at hlength ⊢
      unfold stepExponent
      omega
    have hbinade := Nat.mul_le_mul_right (2 ^ 52) hstep
    have hmin : (ofInt a).rank ≤ rankOfRatio (a.natAbs * unitsPerOne) 1 := Nat.min_le_left _ _
    exact hmin.trans (hle.trans hbinade)
  calc (ofInt a).magnitude
      = magnitudeOfRank (ofInt a).rank := magnitude_eq _
    _ ≤ magnitudeOfRank ((13 + unitExponent + 1) * 2 ^ 52) :=
      magnitudeOfRank_strictMono.monotone hrank
    _ = 2 ^ 52 * 2 ^ (13 + unitExponent) := magnitudeOfRank_binade _
    _ = 2 ^ 65 * unitsPerOne := by
      rw [unitsPerOne_eq, Nat.pow_add 2 13, ← Nat.mul_assoc, ← Nat.pow_add]

theorem natAbs_scaled (x : Binary64) : x.scaled.natAbs = x.magnitude := by
  unfold scaled
  split_ifs <;> simp

theorem exists_add (hx : x.IsModerate) (hy : y.IsModerate) : ∃ z, x.add y = .finite z := by
  have hsum : (x.scaled + y.scaled).natAbs / 1 < 2 ^ (67 + unitExponent) := by
    have htriangle := Int.natAbs_add_le x.scaled y.scaled
    have hpos := unitsPerOne_pos
    rw [natAbs_scaled, natAbs_scaled] at htriangle
    rw [Nat.div_one, Nat.pow_add, ← unitsPerOne_eq]
    unfold IsModerate at hx hy
    omega
  unfold add
  dsimp only
  split_ifs
  · exact ⟨_, rfl⟩
  · exact exists_ofRatio _ (by decide) hsum

theorem exists_sub (hx : x.IsModerate) (hy : y.IsModerate) : ∃ z, x.sub y = .finite z := by
  have hneg : y.neg.IsModerate := hy
  exact exists_add hx hneg

theorem exists_mul (hx : x.IsModerate) (hy : y.IsModerate) : ∃ z, x.mul y = .finite z := by
  have hpos := unitsPerOne_pos
  have hproduct : x.magnitude * y.magnitude / unitsPerOne < 2 ^ (131 + unitExponent) := by
    rw [Nat.div_lt_iff_lt_mul hpos]
    calc x.magnitude * y.magnitude
        ≤ 2 ^ 65 * unitsPerOne * (2 ^ 65 * unitsPerOne) := Nat.mul_le_mul hx hy
      _ = 2 ^ 130 * unitsPerOne * unitsPerOne := by
        rw [Nat.mul_mul_mul_comm, ← Nat.pow_add, Nat.mul_assoc]
      _ < 2 ^ 131 * unitsPerOne * unitsPerOne :=
        Nat.mul_lt_mul_of_pos_right (Nat.mul_lt_mul_of_pos_right (by decide) hpos) hpos
      _ = 2 ^ (131 + unitExponent) * unitsPerOne := by rw [Nat.pow_add, ← unitsPerOne_eq]
  exact exists_ofRatio _ (by decide) hproduct

end Binary64

end SearchQuery
