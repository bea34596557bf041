import Mathlib.Data.List.Basic
import Mathlib.Data.List.Induction
import Mathlib.Tactic.Common
import SearchQuery.Json.Basic

/-!
# Sameness of values

Values are the same when their canonical forms are equal, so sameness is an equivalence, and a value
may take the place of one that is the same.

* `any_same_distinct`, `pairwise_distinct`: of values that are the same, `distinct` keeps one.
* `exists_mem_distinct`, `forall_mem_distinct`: so it is enough to ask for these values.
* `distinct_eq_eraseDupsBy`: the one that is kept is the first.
* `distinct_map_distinct`: repetitions may be left out before a map already.
-/

namespace SearchQuery

namespace Json

variable {a b : Json}

theorem same_iff : a.same b = true ↔ a.canonical = b.canonical := beq_iff_eq

theorem same_refl (a : Json) : a.same a = true := same_iff.2 rfl

theorem same_comm (a b : Json) : a.same b = b.same a := BEq.comm

theorem same_congr_left (h : a.same b = true) (v : Json) : a.same v = b.same v := by
  rw [same, same, same_iff.1 h]

/-! ### Values without repetitions -/

theorem distinct_concat (values : List Json) (v : Json) :
    distinct (values ++ [v]) = pushNew (distinct values) v := by
  rw [distinct, List.foldl_append]
  rfl

/-- The same values are there. -/
theorem any_same_distinct (values : List Json) (v : Json) :
    (distinct values).any (·.same v) = values.any (·.same v) := by
  induction values using List.reverseRecOn with
  | nil => rfl
  | append_singleton values w ih =>
    rw [distinct_concat, pushNew, List.any_append, List.any_cons, List.any_nil, Bool.or_false, ← ih]
    split_ifs with hknown
    · obtain ⟨u, hu, hsame⟩ := List.any_eq_true.1 hknown
      by_cases hw : w.same v = true
      · have hfound : (distinct values).any (·.same v) = true :=
          List.any_eq_true.2 ⟨u, hu, by rwa [same_congr_left hsame]⟩
        rw [hfound, Bool.true_or]
      · rw [Bool.eq_false_iff.2 hw, Bool.or_false]
    · rw [List.any_append, List.any_cons, List.any_nil, Bool.or_false]

/-- No two of them are the same. -/
theorem pairwise_distinct (values : List Json) :
    (distinct values).Pairwise fun a b => a.same b = false := by
  induction values using List.reverseRecOn with
  | nil => exact List.Pairwise.nil
  | append_singleton values w ih =>
    rw [distinct_concat, pushNew]
    split_ifs with hknown
    · exact ih
    · refine List.pairwise_append.2 ⟨ih, List.pairwise_singleton _ w, fun u hu w' hw' => ?_⟩
      rw [List.mem_singleton.1 hw', ← Bool.not_eq_true]
      intro hsame
      exact hknown (List.any_eq_true.2 ⟨u, hu, hsame⟩)

/-- Of values that are the same it is enough to ask for one. -/
theorem exists_mem_distinct {P : Json → Prop} (hP : ∀ {a b : Json}, a.same b = true → P a → P b)
    (values : List Json) : (∃ v ∈ distinct values, P v) ↔ ∃ v ∈ values, P v := by
  have hcovers : ∀ {vs ws : List Json}, (∀ v, vs.any (·.same v) = ws.any (·.same v)) →
      (∃ v ∈ vs, P v) → ∃ w ∈ ws, P w := by
    rintro vs ws hsame ⟨v, hv, hholds⟩
    have hfound : ws.any (·.same v) = true := by
      rw [← hsame]
      exact List.any_eq_true.2 ⟨v, hv, same_refl v⟩
    obtain ⟨w, hw, hwv⟩ := List.any_eq_true.1 hfound
    exact ⟨w, hw, hP (by rwa [same_comm]) hholds⟩
  exact ⟨hcovers (any_same_distinct values), hcovers fun v => (any_same_distinct values v).symm⟩

theorem forall_mem_distinct {P : Json → Prop} (hP : ∀ {a b : Json}, a.same b = true → P a → P b)
    (values : List Json) : (∀ v ∈ distinct values, P v) ↔ ∀ v ∈ values, P v := by
  have hnot : ∀ {a b : Json}, a.same b = true → ¬P a → ¬P b := by
    intro a b hsame ha hb
    exact ha (hP (by rwa [same_comm]) hb)
  have hexists := not_congr (exists_mem_distinct hnot values)
  push Not at hexists
  exact hexists

theorem foldl_pushNew (known values : List Json) :
    values.foldl pushNew known =
      known ++ (values.filter fun v => !known.any (·.same v)).eraseDupsBy same := by
  induction values generalizing known with
  | nil => simp
  | cons v rest ih =>
    rw [List.foldl_cons, ih, List.filter_cons, pushNew]
    cases hknown : known.any (·.same v) with
    | true => rfl
    | false =>
      have hlater : (rest.filter fun w => !(known ++ [v]).any (·.same w)) =
          (rest.filter fun w => !known.any (·.same w)).filter fun w => w.same v = false := by
        rw [List.filter_filter]
        refine List.filter_congr fun w _ => ?_
        simp [same_comm w v, Bool.and_comm]
      rw [if_neg Bool.false_ne_true, if_pos (by rfl), List.eraseDupsBy_cons, hlater,
        List.append_assoc, List.singleton_append]

/-- Of values that are the same, the first is kept. -/
theorem distinct_eq_eraseDupsBy (values : List Json) :
    distinct values = values.eraseDupsBy same := by
  rw [distinct, foldl_pushNew]
  simp

theorem distinct_eq_self_iff {values : List Json} :
    distinct values = values ↔ values.Pairwise fun a b => a.same b = false := by
  refine ⟨fun h => h ▸ pairwise_distinct values, fun h => ?_⟩
  induction values using List.reverseRecOn with
  | nil => rfl
  | append_singleton values v ih =>
    obtain ⟨hvalues, -, hlast⟩ := List.pairwise_append.1 h
    have hnew : ¬values.any (·.same v) = true := by
      intro hknown
      obtain ⟨u, hu, hsame⟩ := List.any_eq_true.1 hknown
      rw [hlast u hu v (List.mem_singleton_self v)] at hsame
      exact Bool.false_ne_true hsame
    rw [distinct_concat, ih hvalues, pushNew, if_neg hnew]

/-- Where sameness is kept by a map, repetitions may be left out before it already. -/
theorem distinct_map_distinct {f : Json → Json}
    (hf : ∀ {a b : Json}, a.same b = true → (f a).same (f b) = true) (values : List Json) :
    distinct ((distinct values).map f) = distinct (values.map f) := by
  induction values using List.reverseRecOn with
  | nil => rfl
  | append_singleton values v ih =>
    rw [List.map_append, List.map_singleton, distinct_concat, distinct_concat, ← ih]
    cases hknown : (distinct values).any (·.same v) with
    | true =>
      obtain ⟨u, hu, hsame⟩ := List.any_eq_true.1 hknown
      have hmapped : (distinct ((distinct values).map f)).any (·.same (f v)) = true := by
        rw [any_same_distinct]
        exact List.any_eq_true.2 ⟨f u, List.mem_map_of_mem hu, hf hsame⟩
      rw [pushNew, if_pos hknown, pushNew, if_pos hmapped]
    | false =>
      rw [pushNew, if_neg (by simp [hknown]), List.map_append, List.map_singleton, distinct_concat]

end Json

end SearchQuery
