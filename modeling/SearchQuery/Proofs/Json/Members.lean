import Mathlib.Data.List.Nodup
import Mathlib.Tactic.Common
import SearchQuery.Json.Basic

/-!
# Members of objects

* `lookup_insertMember`: a member that was given a value has it; the others are as before.
* `collectMembers_of_nodup`: distinct names keep their values and their order.
-/

namespace SearchQuery

theorem lookup_cons_eq_ite {α : Type} (key k : String) (v : α) (rest : List (String × α)) :
    ((k, v) :: rest).lookup key = if key = k then some v else rest.lookup key := by
  rw [List.lookup_cons]
  by_cases h : key = k
  · simp [h]
  · rw [if_neg h, beq_eq_false_iff_ne.2 h]

namespace Json

variable {name : String} {members entries : List (String × Json)}

theorem lookup_insertMember (key name : String) (value : Json) (members : List (String × Json)) :
    (insertMember name value members).lookup key =
      if key = name then some value else members.lookup key := by
  induction members with
  | nil => rw [insertMember, lookup_cons_eq_ite]
  | cons member rest ih =>
    obtain ⟨k, v⟩ := member
    by_cases hk : k = name
    · rw [insertMember, if_pos hk, lookup_cons_eq_ite, lookup_cons_eq_ite, hk]
      split_ifs <;> rfl
    · rw [insertMember, if_neg hk, lookup_cons_eq_ite, ih, lookup_cons_eq_ite]
      by_cases h : key = k
      · simp [h, hk]
      · simp [h]

/-- A new name goes to the end. -/
theorem insertMember_of_notMem (h : name ∉ members.map Prod.fst) (value : Json) :
    insertMember name value members = members ++ [(name, value)] := by
  induction members with
  | nil => rfl
  | cons member rest ih =>
    rw [List.map_cons, List.mem_cons, not_or] at h
    rw [insertMember, if_neg (Ne.symm h.1), ih h.2, List.cons_append]

theorem collectMembers_of_nodup (h : (entries.map Prod.fst).Nodup) :
    collectMembers entries = entries := by
  suffices hfold : ∀ members : List (String × Json), ((members ++ entries).map Prod.fst).Nodup →
      entries.foldl (fun members entry => insertMember entry.1 entry.2 members) members =
        members ++ entries from hfold [] h
  clear h
  induction entries with
  | nil => simp
  | cons entry rest ih =>
    intro members hnodup
    have hnew : entry.1 ∉ members.map Prod.fst := by
      rw [List.map_append, List.nodup_append] at hnodup
      intro hmem
      exact hnodup.2.2 _ hmem _ (List.mem_cons_self ..) rfl
    rw [List.foldl_cons, insertMember_of_notMem hnew, ih _ (by simpa using hnodup),
      List.append_assoc, List.singleton_append]

end Json

end SearchQuery
