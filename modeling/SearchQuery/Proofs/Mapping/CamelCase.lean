import Mathlib.Data.List.Flatten
import SearchQuery.Mapping.Basic
import SearchQuery.Proofs.Text.LowerCase

/-!
# Names in camel case

A name on the wire is one whose front, as far as it would be made small, is its own lower case
already. Names in camel case are of this kind, although some capitals have no small form and stay, and
although one capital may become several characters.

* `loweredCount_camelCaseChars_le`: made small again, a name in camel case does not change behind the
  characters that were made small before.
* `isWireName_camelCaseChars`, `camelCaseChars_of_isWireName`: camel case gives names on the wire, and
  keeps them.
* `camelCase_stable`: so no name on the wire is named anew.
-/

namespace SearchQuery

namespace Naming

variable {name front rest : List Char} {k : Nat}

/-- Whether the characters in front that would become small are their own lower case. -/
def IsWireName (name : List Char) : Prop :=
  ∀ c ∈ name.take (loweredCount name), Text.lowerChar c = [c]

/-! ### Capitals in front -/

/-- How many capitals a name starts with. -/
def capitals (name : List Char) : Nat := (name.takeWhile Text.isUpper).length

theorem loweredCount_eq (name : List Char) : loweredCount name =
    if 1 < capitals name ∧ capitals name < name.length then capitals name - 1
    else max (capitals name) 1 := rfl

theorem loweredCount_pos (name : List Char) : 0 < loweredCount name := by
  rw [loweredCount_eq]
  split_ifs <;> omega

theorem loweredCount_le (h : capitals name ≤ k) (hk : 1 ≤ k) : loweredCount name ≤ k := by
  rw [loweredCount_eq]
  split_ifs <;> omega

theorem capitals_le_length (name : List Char) : capitals name ≤ name.length :=
  (List.takeWhile_prefix _).length_le

theorem capitals_append_le (front rest : List Char) :
    capitals (front ++ rest) ≤ front.length + capitals rest := by
  have hfront := capitals_le_length front
  unfold capitals at hfront ⊢
  rw [List.takeWhile_append]
  split
  · exact Nat.le_of_eq List.length_append
  · omega

theorem capitals_drop (name : List Char) (k : Nat) :
    k ≤ capitals name → capitals (name.drop k) = capitals name - k := by
  induction k generalizing name with
  | zero => exact fun _ => rfl
  | succ k ih =>
    intro h
    cases name with
    | nil => simp [capitals] at h
    | cons c rest =>
      by_cases hc : Text.isUpper c = true
      · have hcons : capitals (c :: rest) = capitals rest + 1 := by simp [capitals, hc]
        rw [hcons] at h ⊢
        rw [List.drop_succ_cons, ih rest (by omega), Nat.add_sub_add_right]
      · simp [capitals, hc] at h

/-! ### Made small again -/

/-- The characters that became small. -/
def loweredFront (name : List Char) : List Char :=
  (name.take (loweredCount name)).flatMap Text.lowerChar

theorem camelCaseChars_eq (name : List Char) :
    camelCaseChars name = loweredFront name ++ name.drop (loweredCount name) := rfl

theorem loweredFront_ne_nil (h : name ≠ []) : loweredFront name ≠ [] := by
  obtain ⟨c, rest, rfl⟩ := List.exists_cons_of_ne_nil h
  obtain ⟨k, hk⟩ := Nat.exists_eq_add_one.2 (loweredCount_pos (c :: rest))
  rw [loweredFront, hk, List.take_succ_cons, List.flatMap_cons]
  simp [Text.lowerChar_ne_nil c]

/-- The capitals of a name in camel case are among the characters that became small, or are those that
follow them. -/
theorem capitals_camelCaseChars_le_add (name : List Char) :
    capitals (camelCaseChars name) ≤
      (loweredFront name).length + capitals (name.drop (loweredCount name)) :=
  capitals_append_le _ _

/-- Where no acronym ends in a word, all of them are among the characters that became small. -/
theorem capitals_camelCaseChars_le (h : name ≠ [])
    (hacronym : ¬(1 < capitals name ∧ capitals name < name.length)) :
    capitals (camelCaseChars name) ≤ (loweredFront name).length := by
  have hcount : loweredCount name = max (capitals name) 1 := by
    rw [loweredCount_eq, if_neg hacronym]
  by_cases hnone : capitals name = 0
  · -- The one character that becomes small is no capital before, and none afterwards.
    obtain ⟨c, rest, rfl⟩ := List.exists_cons_of_ne_nil h
    have hc : Text.isUpper c = false := by
      cases hupper : Text.isUpper c with
      | false => rfl
      | true => simp [capitals, hupper] at hnone
    obtain ⟨d, tail, hlower⟩ := List.exists_cons_of_ne_nil (Text.lowerChar_ne_nil c)
    have hd : Text.isUpper d = false :=
      Text.isUpper_of_mem_lowerChar hc (hlower ▸ List.mem_cons_self)
    have hstart : camelCaseChars (c :: rest) = d :: (tail ++ rest) := by
      simp [camelCaseChars, hcount, hnone, hlower]
    have hcapitals : capitals (camelCaseChars (c :: rest)) = 0 := by
      simp [hstart, capitals, hd]
    omega
  · -- All the capitals become small, so that none is left behind them.
    have hall : loweredCount name = capitals name := by omega
    have hle := capitals_camelCaseChars_le_add name
    rwa [hall, capitals_drop name _ (Nat.le_refl _), Nat.sub_self, Nat.add_zero] at hle

/-- What would become small in a name in camel case did so before. -/
theorem loweredCount_camelCaseChars_le (h : name ≠ []) :
    loweredCount (camelCaseChars name) ≤ (loweredFront name).length := by
  have hone := List.length_pos_iff.2 (loweredFront_ne_nil h)
  by_cases hacronym : 1 < capitals name ∧ capitals name < name.length
  · -- The last capital of the acronym is the first character that did not become small. If those
    -- before it are capitals still, it is the last one again.
    have hcount : loweredCount name = capitals name - 1 := by
      rw [loweredCount_eq, if_pos hacronym]
    have hle := capitals_camelCaseChars_le_add name
    have hlength : (camelCaseChars name).length =
        (loweredFront name).length + (name.length - loweredCount name) := by
      rw [camelCaseChars_eq, List.length_append, List.length_drop]
    rw [hcount, capitals_drop name _ (Nat.sub_le _ _)] at hle
    rw [loweredCount_eq (camelCaseChars name), hlength]
    split_ifs <;> omega
  · exact loweredCount_le (capitals_camelCaseChars_le h hacronym) hone

/-- Names in camel case are names on the wire. -/
theorem isWireName_camelCaseChars (name : List Char) : IsWireName (camelCaseChars name) := by
  by_cases h : name = []
  · subst h
    intro c hc
    simp [camelCaseChars] at hc
  · intro c hc
    have hle := loweredCount_camelCaseChars_le h
    rw [camelCaseChars_eq] at hle hc
    rw [List.take_append_of_le_length hle] at hc
    obtain ⟨d, -, hc⟩ := List.mem_flatMap.1 (List.mem_of_mem_take hc)
    exact Text.lowerChar_of_mem_lowerChar hc

/-- Camel case keeps names on the wire. -/
theorem camelCaseChars_of_isWireName (h : IsWireName name) : camelCaseChars name = name := by
  rw [camelCaseChars, List.flatMap_congr h, List.flatMap_singleton', List.take_append_drop]

theorem camelCase_eq_self_iff {name : String} : camelCase name = name ↔ IsWireName name.toList := by
  have hchars : camelCase name = name ↔ camelCaseChars name.toList = name.toList := by
    rw [camelCase, ← String.toList_inj, String.toList_ofList]
  rw [hchars]
  refine ⟨fun h => ?_, camelCaseChars_of_isWireName⟩
  rw [← h]
  exact isWireName_camelCaseChars _

/-- No name is lost in camel case. -/
theorem camelCase_ne_empty {name : String} (h : name ≠ "") : camelCase name ≠ "" := by
  have hfront := loweredFront_ne_nil (mt String.toList_eq_nil_iff.1 h)
  have hchars : camelCaseChars name.toList ≠ [] := by
    simp [camelCaseChars_eq, hfront]
  rwa [camelCase, ne_eq, String.ofList_eq_empty_iff]

/-- **Camel case is stable.** A name in camel case is a name on the wire, which camel case keeps, and
names on the wire are all that it keeps. So members and document types that have their names on the
wire already are not named anew. -/
theorem camelCase_stable :
    (∀ name, camelCase (camelCase name) = camelCase name) ∧
    (∀ name, camelCase name = name ↔ IsWireName name.toList) ∧
    (∀ (options : MappingOptions) (name : String) (valueType : ValueType),
      options.memberName ⟨camelCase name, valueType⟩ = camelCase name) ∧
    ∀ (options : MappingOptions) (name : String) (members : List Member),
      options.typeName ⟨camelCase name, members⟩ = camelCase name := by
  have hstable : ∀ name, camelCase (camelCase name) = camelCase name := by
    intro name
    refine camelCase_eq_self_iff.2 ?_
    rw [camelCase, String.toList_ofList]
    exact isWireName_camelCaseChars _
  refine ⟨hstable, fun name => camelCase_eq_self_iff, ?_, ?_⟩
  · intro options name valueType
    rw [MappingOptions.memberName, hstable, ite_self]
  · intro options name members
    rw [MappingOptions.typeName, hstable, ite_self]

/-- A capital without a small form stays, and the one behind it too if a word follows. -/
example : camelCase "𝐔RLPath" = "𝐔rlPath" ∧ camelCase "𝐔Path" = "𝐔Path" ∧ camelCase "İD" = "i̇d" := by
  decide

end Naming

end SearchQuery
