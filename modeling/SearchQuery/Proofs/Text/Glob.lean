import Mathlib.Data.List.Infix
import Mathlib.Tactic.Common
import SearchQuery.Proofs.Text.LowerCase

/-!
# Wildcard patterns

A search engine reads a wildcard pattern as a glob: a star stands for any text, a question mark for
any one character, a backslash takes the next character literally, and all others stand for
themselves.

* `Glob.read`, `Glob.accepts`: a pattern taken apart, and the texts it accepts.
* `Glob.accepts_substring_iff`: between two stars, a text without special characters accepts the
  texts that it occurs in.
* `Glob.exists_accepted`: a text with special characters also accepts another text.
* `Text.lower_between_stars`, `Text.isPlain_lower`: lower-casing keeps stars around a text, and
  neither makes nor takes away a special character.
-/

namespace SearchQuery

/-! ### Globs -/

/-- What one step of a pattern stands for. -/
inductive GlobPiece where
  | anyText
  | anyChar
  | literal (c : Char)
  deriving DecidableEq

namespace Glob

variable {p v w : List Char} {pieces : List GlobPiece} {c : Char}

/-- A pattern taken apart. -/
@[simp] def read : List Char → List GlobPiece
  | [] => []
  | '*' :: rest => .anyText :: read rest
  | '?' :: rest => .anyChar :: read rest
  | '\\' :: c :: rest => .literal c :: read rest
  | c :: rest => .literal c :: read rest

/-- Whether a text is one that the pieces stand for. -/
@[simp] def accepts : List GlobPiece → List Char → Bool
  | [], v => v.isEmpty
  | .anyText :: pieces, v => v.tails.any (accepts pieces)
  | .anyChar :: pieces, v =>
    match v with
    | [] => false
    | _ :: rest => accepts pieces rest
  | .literal c :: pieces, v =>
    match v with
    | [] => false
    | d :: rest => c == d && accepts pieces rest

/-- Whether a character has a meaning of its own in patterns. -/
def isSpecial (c : Char) : Bool := c == '*' || c == '?' || c == '\\'

/-- A text without special characters. -/
def IsPlain (p : List Char) : Prop := ∀ c ∈ p, isSpecial c = false

instance : DecidablePred IsPlain := fun p => p.decidableBAll fun c => isSpecial c = false

theorem read_of_not_special (h : isSpecial c = false) (p : List Char) :
    read (c :: p) = .literal c :: read p := by
  simp only [isSpecial, Bool.or_eq_false_iff, beq_eq_false_iff_ne] at h
  obtain ⟨⟨hstar, hquestion⟩, hbackslash⟩ := h
  rw [read]
  · exact hstar
  · exact hquestion
  · rintro d rest rfl
    exact absurd rfl hbackslash

theorem read_plain (h : IsPlain p) (q : List Char) :
    read (p ++ q) = p.map .literal ++ read q := by
  induction p with
  | nil => rfl
  | cons c p ih =>
    have hc : isSpecial c = false := h c (List.mem_cons_self ..)
    have hp : IsPlain p := fun d hd => h d (List.mem_cons_of_mem _ hd)
    rw [List.cons_append, read_of_not_special hc, ih hp, List.map_cons, List.cons_append]

theorem accepts_anyText_iff :
    accepts (.anyText :: pieces) v = true ↔ ∃ w, w <:+ v ∧ accepts pieces w = true := by
  simp [accepts]

theorem accepts_anyText_of_accepts (h : accepts pieces v = true) :
    accepts (.anyText :: pieces) v = true :=
  accepts_anyText_iff.2 ⟨v, List.suffix_rfl, h⟩

theorem accepts_literals_iff :
    accepts (p.map .literal ++ pieces) v = true ↔ ∃ w, p ++ w = v ∧ accepts pieces w = true := by
  induction p generalizing v with
  | nil => simp
  | cons c p ih =>
    rw [List.map_cons, List.cons_append]
    rcases v with - | ⟨d, v⟩
    · simp [accepts]
    · simp only [accepts, Bool.and_eq_true, beq_iff_eq, ih, List.cons_append, List.cons.injEq]
      constructor
      · rintro ⟨rfl, w, rfl, hw⟩
        exact ⟨w, ⟨rfl, rfl⟩, hw⟩
      · rintro ⟨w, ⟨rfl, rfl⟩, hw⟩
        exact ⟨rfl, w, rfl, hw⟩

/-- **A plain text is searched for as a substring.** -/
theorem accepts_substring_iff (h : IsPlain p) :
    accepts (read ('*' :: p ++ ['*'])) v = true ↔ p <:+: v := by
  have hread : read ('*' :: p ++ ['*']) = .anyText :: (p.map .literal ++ [.anyText]) := by
    rw [List.cons_append, read, read_plain h]
    rfl
  have hall : ∀ w, accepts [.anyText] w = true := by
    intro w
    exact accepts_anyText_iff.2 ⟨[], List.nil_suffix, rfl⟩
  rw [hread, accepts_anyText_iff]
  constructor
  · rintro ⟨w, ⟨before, rfl⟩, hw⟩
    obtain ⟨after, rfl, -⟩ := accepts_literals_iff.1 hw
    exact ⟨before, after, List.append_assoc ..⟩
  · rintro ⟨before, after, rfl⟩
    refine ⟨p ++ after, ⟨before, (List.append_assoc ..).symm⟩, ?_⟩
    exact accepts_literals_iff.2 ⟨after, rfl, hall after⟩

/-- With a star after it, a text accepts a text that is no longer and differs from it if it has
special characters. -/
theorem exists_accepted (p : List Char) :
    ∃ v, accepts (read (p ++ ['*'])) v = true ∧ v.length ≤ p.length ∧ (v = p → IsPlain p) := by
  -- Along the reading of the pattern: a star and a backslash lose a character, a question mark
  -- becomes a letter.
  induction p using read.induct with
  | case1 => exact ⟨[], rfl, Nat.le_refl _, fun _ => by simp [IsPlain]⟩
  | case2 rest ih =>
    obtain ⟨v, hv, hlength, -⟩ := ih
    refine ⟨v, accepts_anyText_of_accepts hv, Nat.le_succ_of_le hlength, ?_⟩
    rintro rfl
    exact absurd hlength (Nat.not_succ_le_self _)
  | case3 rest ih =>
    obtain ⟨v, hv, hlength, -⟩ := ih
    refine ⟨'a' :: v, hv, Nat.succ_le_succ hlength, ?_⟩
    intro h
    exact absurd (List.cons.inj h).1 (by decide)
  | case4 c rest ih =>
    obtain ⟨v, hv, hlength, -⟩ := ih
    refine ⟨c :: v, ?_, ?_, ?_⟩
    · simpa [read, accepts] using hv
    · simp only [List.length_cons]
      omega
    · intro h
      have hsame := congrArg List.length h
      simp only [List.length_cons] at hsame
      omega
  | case5 c rest hstar hquestion hbackslash ih =>
    by_cases hlast : c = '\\'
    · -- A backslash at the end takes the closing star literally.
      have hrest : rest = [] := by
        rcases rest with - | ⟨d, rest⟩
        · rfl
        · exact absurd hlast fun h => hbackslash d rest h rfl
      subst hlast hrest
      refine ⟨['*'], by decide, Nat.le_refl _, ?_⟩
      intro h
      exact absurd h (by decide)
    · have hc : isSpecial c = false := by
        simp only [isSpecial, Bool.or_eq_false_iff, beq_eq_false_iff_ne]
        exact ⟨⟨hstar, hquestion⟩, hlast⟩
      obtain ⟨v, hv, hlength, hplain⟩ := ih
      refine ⟨c :: v, ?_, Nat.succ_le_succ hlength, ?_⟩
      · rw [List.cons_append, read_of_not_special hc]
        simpa [accepts] using hv
      · intro h
        have hp : IsPlain rest := hplain (List.cons.inj h).2
        intro d hd
        rcases List.mem_cons.1 hd with rfl | hd
        · exact hc
        · exact hp d hd

/-- A text between stars is searched for as a substring just if it is plain. -/
theorem accepts_iff_substring_iff :
    (∀ v, accepts (read ('*' :: p ++ ['*'])) v = true ↔ p <:+: v) ↔ IsPlain p := by
  refine ⟨fun h => ?_, fun h v => accepts_substring_iff h⟩
  obtain ⟨v, hv, hlength, hplain⟩ := exists_accepted p
  have hoccurs : p <:+: v := (h v).1 (accepts_anyText_of_accepts hv)
  exact hplain (hoccurs.eq_of_length_le hlength).symm

end Glob

/-! ### Lower case -/

namespace Text

open Glob (isSpecial IsPlain)

variable {c k : Char} {before cs : List Char}

/-- The characters with a meaning of their own in patterns. -/
def specials : List Char := ['*', '?', '\\']

theorem mem_specials : k ∈ specials ↔ isSpecial k = true := by
  simp [specials, isSpecial, or_assoc]

/-- A capital letter is mapped above the code points of the special characters. -/
theorem lowerRanges_apply {r : CaseRange} (hr : r ∈ lowerRanges) {n : Nat}
    (hn : r.contains n = true) : 92 < r.apply n := by
  have hstart := lowerRanges_start r hr
  simp only [CaseRange.contains, Bool.and_eq_true, decide_eq_true_eq] at hn
  rw [CaseRange.apply]
  omega

theorem isSpecial_ofNat {n : Nat} (h : 92 < n) : isSpecial (Char.ofNat n) = false := by
  have hcodes : specials.all (fun k => 0 < k.toNat ∧ k.toNat ≤ 92) = true := by decide
  by_contra hspecial
  have hrange := List.all_eq_true.1 hcodes _ (mem_specials.2 (Bool.of_not_eq_false hspecial))
  rw [decide_eq_true_eq] at hrange
  rcases toNat_ofNat_cases n with hcode | hcode <;> omega

theorem lowerChar_of_special (h : isSpecial c = true) : lowerChar c = [c] := by
  have hall : specials.all (fun k => lowerChar k = [k]) = true := by decide
  exact of_decide_eq_true (List.all_eq_true.1 hall c (mem_specials.2 h))

theorem lowerChar_isPlain (h : isSpecial c = false) : IsPlain (lowerChar c) := by
  have hcodes : ∀ e ∈ lowerExpansions, ∀ n ∈ e.2, 92 < n := by decide
  intro k hk
  rcases lowerChar_cases c with hc | ⟨e, he, hc⟩ | ⟨r, hr, hn, hc⟩
  · rw [hc] at hk
    obtain rfl := List.mem_singleton.1 hk
    exact h
  · rw [hc] at hk
    obtain ⟨n, hn, rfl⟩ := List.mem_map.1 hk
    exact isSpecial_ofNat (hcodes e he n hn)
  · rw [hc] at hk
    obtain rfl := List.mem_singleton.1 hk
    exact isSpecial_ofNat (lowerRanges_apply hr hn)

theorem isPlain_append {p q : List Char} : IsPlain (p ++ q) ↔ IsPlain p ∧ IsPlain q := by
  simp [IsPlain, or_imp, forall_and]

theorem isPlain_lowerChar : IsPlain (lowerChar c) ↔ isSpecial c = false := by
  refine ⟨fun h => ?_, lowerChar_isPlain⟩
  by_contra hspecial
  rw [lowerChar_of_special (Bool.of_not_eq_false hspecial)] at h
  exact hspecial (h c (List.mem_singleton_self c))

theorem isPlain_lowerFrom : IsPlain (lowerFrom before cs) ↔ IsPlain cs := by
  induction cs generalizing before with
  | nil => rfl
  | cons c rest ih =>
    have hcons : IsPlain (c :: rest) ↔ isSpecial c = false ∧ IsPlain rest := by simp [IsPlain]
    rw [lowerFrom_cons, isPlain_append, ih, hcons]
    refine and_congr_left fun _ => ?_
    by_cases hsigma : c = 'Σ'
    · subst hsigma
      split_ifs <;> decide
    · rw [if_neg hsigma]
      exact isPlain_lowerChar

/-- A special character is neither made nor taken away by lower-casing. -/
theorem isPlain_lower {text : String} : IsPlain (lower text).toList ↔ IsPlain text.toList := by
  rw [toList_lower]
  exact isPlain_lowerFrom

theorem meetsCased_star (cs : List Char) : meetsCased (cs ++ ['*']) = meetsCased cs := by
  have hignorable : isCaseIgnorable '*' = false := by decide +kernel
  have hcased : isCased '*' = false := by decide
  induction cs with
  | nil => simp [meetsCased, hignorable, hcased]
  | cons c rest ih =>
    unfold meetsCased at ih ⊢
    rw [List.cons_append, List.dropWhile_cons, List.dropWhile_cons]
    split_ifs
    · exact ih
    · rfl

theorem lowerFrom_stars (before cs : List Char) :
    lowerFrom (before ++ ['*']) (cs ++ ['*']) = lowerFrom before cs ++ ['*'] := by
  induction cs generalizing before with
  | nil => exact congrArg (· ++ []) (lowerChar_of_special (c := '*') rfl)
  | cons c rest ih =>
    rw [List.cons_append, lowerFrom_cons, lowerFrom_cons, meetsCased_star, meetsCased_star,
      ← List.cons_append, ih, List.append_assoc]

/-- Stars around a text do not change how it is lower-cased. -/
theorem lower_between_stars (text : String) :
    (lower ("*" ++ text ++ "*")).toList = '*' :: (lower text).toList ++ ['*'] := by
  have hstar : "*".toList = ['*'] := rfl
  have hstars : lowerFrom ['*'] (text.toList ++ ['*']) = lowerFrom [] text.toList ++ ['*'] :=
    lowerFrom_stars [] text.toList
  simp only [toList_lower, String.toList_append, hstar, List.cons_append, List.nil_append,
    lowerFrom_cons, lowerChar_of_special (c := '*') rfl, hstars]
  rfl

end Text

end SearchQuery
