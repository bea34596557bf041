import Mathlib.Tactic.Common
import SearchQuery.Response.Basic

/-!
# Values at dotted paths

* `Text.split_append`: a text with a separator is split before and after it.
* `Text.split_join`: texts without a separator are what the joined text is split into.
* `atPath?_append`: the value at a path below another one is found by following the one from the
  value at the other. The names on the way may have dots themselves.
-/

namespace SearchQuery

namespace Text

theorem splitChars_eq_splitOn (separator : Char) (cs : List Char) :
    splitChars separator cs = cs.splitOn separator := by
  induction cs with
  | nil => rfl
  | cons c rest ih =>
    rw [splitChars, List.splitOn_cons_eq_if_modifyHead, ih]
    by_cases h : c = separator
    · rw [if_pos h, if_pos (beq_iff_eq.2 h)]
    · rw [if_neg h, if_neg (by simpa using h)]
      cases hparts : rest.splitOn separator with
      | nil => exact absurd hparts (List.splitOn_ne_nil _ _)
      | cons part parts => rfl

theorem split_append (separator : Char) (a b : String) :
    split separator (a ++ String.singleton separator ++ b) =
      split separator a ++ split separator b := by
  have hchars : (a ++ String.singleton separator ++ b).toList =
      a.toList ++ separator :: b.toList := by simp
  rw [split, hchars, splitChars_eq_splitOn, List.splitOn_append_cons_self, List.map_append,
    ← splitChars_eq_splitOn, ← splitChars_eq_splitOn, split, split]

theorem split_of_notMem {separator : Char} {text : String} (h : separator ∉ text.toList) :
    split separator text = [text] := by
  rw [split, splitChars_eq_splitOn, List.splitOn_eq_singleton h, List.map_singleton,
    String.ofList_toList]

/-- Texts without the separator are split where they were joined. -/
theorem split_join {separator : Char} {texts : List String} (hne : texts ≠ [])
    (h : ∀ text ∈ texts, separator ∉ text.toList) :
    split separator (join (String.singleton separator) texts) = texts := by
  induction texts with
  | nil => exact absurd rfl hne
  | cons text rest ih =>
    rw [List.forall_mem_cons] at h
    cases rest with
    | nil => exact split_of_notMem h.1
    | cons text' rest =>
      have hjoin : join (String.singleton separator) (text :: text' :: rest) =
          text ++ String.singleton separator ++
            join (String.singleton separator) (text' :: rest) := rfl
      rw [hjoin, split_append, split_of_notMem h.1, ih (by simp) h.2]
      rfl

theorem split_ne_nil (separator : Char) (text : String) : split separator text ≠ [] := by
  rw [split, splitChars_eq_splitOn]
  simp

end Text

namespace Json

variable {path name : String}

theorem atPath?_of_ne_empty (h : path ≠ "") (v : Json) :
    v.atPath? path =
      (Text.split '.' path).foldlM (fun current segment => current.member? segment) v :=
  if_neg (by simpa using h)

/-- There is nothing below null. -/
theorem atPath?_null (h : path ≠ "") : atPath? path .null = none := by
  rw [atPath?_of_ne_empty h]
  cases hparts : Text.split '.' path with
  | nil => exact absurd hparts (Text.split_ne_nil _ _)
  | cons part parts => rfl

/-- Below a path, a path is followed from the value there. -/
theorem atPath?_append (hpath : path ≠ "") (hname : name ≠ "") (v : Json) :
    v.atPath? (path ++ "." ++ name) = (v.atPath? path).bind (·.atPath? name) := by
  have hne : path ++ "." ++ name ≠ "" := by simp [hpath]
  have hsplit : Text.split '.' (path ++ "." ++ name) =
      Text.split '.' path ++ Text.split '.' name := Text.split_append '.' path name
  rw [atPath?_of_ne_empty hne, hsplit, List.foldlM_append, atPath?_of_ne_empty hpath]
  refine Option.bind_congr fun target _ => ?_
  rw [atPath?_of_ne_empty hname]

end Json

end SearchQuery
