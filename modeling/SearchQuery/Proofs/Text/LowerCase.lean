import Mathlib.Data.List.Basic
import Mathlib.Tactic.Common
import SearchQuery.Text.Case

/-!
# Small letters

What the case mapping of characters gives, over all of its table. Sets of code points are told apart as
the bits of numbers, since capital and small letters often alternate.

* `lowerChar_cases`: how a character comes to its lower case, as itself or through the table.
* `lowerChar_eq_or_isSmall`: it stays, or becomes small characters, which are not mapped any further.
* `eq_of_y_mem_lowerChar`: the letter y is the lower case of itself and of its capital only.
-/

namespace SearchQuery

namespace Text

variable {c d : Char} {n : Nat}

/-! ### Code points as bits -/

namespace CodeRange

variable {r q : CodeRange} {ranges others : List CodeRange}

/-- The first multiples of a step, each as a bit. -/
def multiples (step : Nat) : Nat → Nat
  | 0 => 0
  | count + 1 => 1 ||| multiples step count <<< step

theorem testBit_multiples (step : Nat) {count k : Nat} (h : k < count) :
    (multiples step count).testBit (k * step) = true := by
  induction count generalizing k with
  | zero => omega
  | succ count ih =>
    rw [multiples, Nat.testBit_or, Nat.testBit_shiftLeft]
    cases k with
    | zero => simp
    | succ k =>
      have hstep : (k + 1) * step = k * step + step := Nat.succ_mul k step
      have hshifted := ih (Nat.lt_of_succ_lt_succ h)
      simp [hstep, hshifted]

/-- The code points of a range, each as a bit. -/
def bits (r : CodeRange) : Nat :=
  multiples r.step ((r.last - r.first) / r.step + 1) <<< r.first

theorem contains_iff : r.contains n = true ↔
    r.first ≤ n ∧ n ≤ r.last ∧ (n - r.first) % r.step = 0 := by
  simp [contains, and_assoc]

theorem testBit_bits (hn : r.contains n = true) : r.bits.testBit n = true := by
  obtain ⟨hfirst, hlast, hstep⟩ := contains_iff.1 hn
  have hmultiple : (n - r.first) / r.step * r.step = n - r.first :=
    Nat.div_mul_cancel (Nat.dvd_of_mod_eq_zero hstep)
  have hcount : (n - r.first) / r.step < (r.last - r.first) / r.step + 1 :=
    Nat.lt_succ_of_le (Nat.div_le_div_right (Nat.sub_le_sub_right hlast _))
  have hbit := testBit_multiples r.step hcount
  rw [hmultiple] at hbit
  rw [bits, Nat.testBit_shiftLeft, hbit, Bool.and_true]
  exact decide_eq_true hfirst

/-- The code points of several ranges, each as a bit. -/
def bitsOfAll : List CodeRange → Nat
  | [] => 0
  | r :: rest => r.bits ||| bitsOfAll rest

theorem testBit_bitsOfAll (hr : r ∈ ranges) (hn : r.contains n = true) :
    (bitsOfAll ranges).testBit n = true := by
  induction ranges with
  | nil => cases hr
  | cons first rest ih =>
    rw [bitsOfAll, Nat.testBit_or, Bool.or_eq_true]
    rcases List.mem_cons.1 hr with rfl | hr
    · exact .inl (testBit_bits hn)
    · exact .inr (ih hr)

/-- Ranges without a common bit have no common code point. -/
theorem contains_eq_false_of_disjoint (h : bitsOfAll ranges &&& bitsOfAll others = 0)
    (hr : r ∈ ranges) (hq : q ∈ others) (hn : r.contains n = true) : q.contains n = false := by
  by_contra hcommon
  have hbit : (bitsOfAll ranges &&& bitsOfAll others).testBit n = true := by
    rw [Nat.testBit_and, testBit_bitsOfAll hr hn,
      testBit_bitsOfAll hq (Bool.of_not_eq_false hcommon), Bool.and_self]
  rw [h, Nat.zero_testBit] at hbit
  cases hbit

end CodeRange

namespace CaseRange

variable {r : CaseRange}

/-- The code points that are mapped. -/
def source (r : CaseRange) : CodeRange := ⟨r.first, r.last, r.step⟩

/-- The code points that they are mapped to. -/
def image (r : CaseRange) : CodeRange := ⟨r.apply r.first, r.apply r.last, r.step⟩

theorem image_contains (hfirst : 0 ≤ (r.first : Int) + r.offset) (hn : r.contains n = true) :
    r.image.contains (r.apply n) = true := by
  have hsource := CodeRange.contains_iff.1 (show r.source.contains n = true from hn)
  simp only [source] at hsource
  have hdistance : r.apply n - r.apply r.first = n - r.first := by
    simp only [apply]
    omega
  refine CodeRange.contains_iff.2 ⟨?_, ?_, ?_⟩
  · simp only [image, apply]
    omega
  · simp only [image, apply]
    omega
  · rw [image, hdistance]
    exact hsource.2.2

end CaseRange

/-! ### The table -/

/-- No capital is mapped below the letter a. -/
theorem lowerRanges_start : ∀ r ∈ lowerRanges, 97 ≤ (r.first : Int) + r.offset := by
  decide +kernel

theorem toNat_ofNat_cases (n : Nat) : (Char.ofNat n).toNat = n ∨ (Char.ofNat n).toNat = 0 := by
  by_cases hvalid : n.isValidChar
  · left
    rw [Char.ofNat, dif_pos hvalid]
    rfl
  · right
    rw [Char.ofNat, dif_neg hvalid]
    rfl

/-- A character is its own lower case, or the table has its lower case. -/
theorem lowerChar_cases (c : Char) :
    lowerChar c = [c] ∨
      (∃ e ∈ lowerExpansions, lowerChar c = e.2.map Char.ofNat) ∨
      ∃ r ∈ lowerRanges, r.contains c.toNat = true ∧
        lowerChar c = [Char.ofNat (r.apply c.toNat)] := by
  unfold lowerChar mapChar
  split
  · rename_i codes hlookup
    have hentry : (c.toNat, codes) ∈ lowerExpansions := by
      obtain ⟨front, back, hsplit, -⟩ := List.lookup_eq_some_iff.1 hlookup
      rw [hsplit]
      simp
    exact .inr (.inl ⟨_, hentry, rfl⟩)
  · split
    · rename_i r hfind
      have hcontains := List.find?_some hfind
      exact .inr (.inr ⟨r, List.mem_of_find?_eq_some hfind, hcontains, rfl⟩)
    · exact .inl rfl

theorem lowerChar_ne_nil (c : Char) : lowerChar c ≠ [] := by
  have hcodes : ∀ e ∈ lowerExpansions, e.2 ≠ [] := by decide
  rcases lowerChar_cases c with h | ⟨e, he, h⟩ | ⟨r, -, -, h⟩
  · simp [h]
  · rw [h, ne_eq, List.map_eq_nil_iff]
    exact hcodes e he
  · simp [h]

/-! ### Small characters -/

/-- A character that is its own lower case, and no capital either. -/
structure IsSmall (c : Char) : Prop where
  lowerChar_eq : lowerChar c = [c]
  isUpper_eq : isUpper c = false

/-- Whether a code point is neither mapped nor that of a capital. -/
def isSmallCode (n : Nat) : Bool :=
  (lowerExpansions.lookup n).isNone && lowerRanges.all (fun r => !r.contains n) &&
    uppercaseRanges.all (fun r => !r.contains n)

theorem isSmall_of_isSmallCode (h : isSmallCode c.toNat = true) : IsSmall c := by
  simp only [isSmallCode, Bool.and_eq_true, Option.isNone_iff_eq_none] at h
  obtain ⟨⟨hlookup, hranges⟩, hupper⟩ := h
  constructor
  · have hfind : lowerRanges.find? (·.contains c.toNat) = none := by
      simpa using hranges
    simp only [lowerChar, mapChar, hlookup, hfind]
  · simpa [isUpper] using hupper

/-- The code points that the table leads to. -/
def imageRanges : List CodeRange := lowerRanges.map (·.image)

/-- The code points that the table maps, and those of capitals. -/
def largeRanges : List CodeRange := lowerRanges.map (·.source) ++ uppercaseRanges

/-- Where the table leads is a small character. -/
theorem isSmallCode_apply {r : CaseRange} (hr : r ∈ lowerRanges) (hn : r.contains n = true) :
    isSmallCode (r.apply n) = true := by
  have hexpansions : ∀ e ∈ lowerExpansions, ∀ q ∈ imageRanges, q.contains e.1 = false := by
    decide +kernel
  have hdisjoint : CodeRange.bitsOfAll imageRanges &&& CodeRange.bitsOfAll largeRanges = 0 := by
    decide +kernel
  have himage : r.image ∈ imageRanges := List.mem_map_of_mem hr
  have happly : r.image.contains (r.apply n) = true := by
    have hstart := lowerRanges_start r hr
    exact CaseRange.image_contains (by omega) hn
  have hlarge : ∀ q ∈ largeRanges, q.contains (r.apply n) = false := fun q hq =>
    CodeRange.contains_eq_false_of_disjoint hdisjoint himage hq happly
  simp only [isSmallCode, Bool.and_eq_true, List.all_eq_true, Bool.not_eq_true',
    Option.isNone_iff_eq_none, List.lookup_eq_none_iff]
  refine ⟨⟨fun e he => ?_, fun q hq => ?_⟩, fun q hq => ?_⟩
  · rw [bne_iff_ne]
    intro hsame
    have hmiss := hexpansions e he _ himage
    rw [← hsame, happly] at hmiss
    cases hmiss
  · exact hlarge q.source (List.mem_append_left _ (List.mem_map_of_mem hq))
  · exact hlarge q (List.mem_append_right _ hq)

theorem isSmall_ofNat (h : isSmallCode n = true) : IsSmall (Char.ofNat n) := by
  have hzero : isSmallCode 0 = true := by decide
  refine isSmall_of_isSmallCode ?_
  rcases toNat_ofNat_cases n with hcode | hcode
  · rw [hcode]
    exact h
  · rw [hcode]
    exact hzero

/-- A character is its own lower case, or becomes small characters. -/
theorem lowerChar_eq_or_isSmall (c : Char) :
    lowerChar c = [c] ∨ ∀ d ∈ lowerChar c, IsSmall d := by
  have hcodes : ∀ e ∈ lowerExpansions, ∀ n ∈ e.2, isSmallCode n = true := by decide
  rcases lowerChar_cases c with h | ⟨e, he, h⟩ | ⟨r, hr, hn, h⟩
  · exact .inl h
  · right
    intro d hd
    rw [h] at hd
    obtain ⟨n, hn, rfl⟩ := List.mem_map.1 hd
    exact isSmall_ofNat (hcodes e he n hn)
  · right
    intro d hd
    rw [h] at hd
    obtain rfl := List.mem_singleton.1 hd
    exact isSmall_ofNat (isSmallCode_apply hr hn)

/-- Lower case is not mapped any further. -/
theorem lowerChar_of_mem_lowerChar (h : d ∈ lowerChar c) : lowerChar d = [d] := by
  rcases lowerChar_eq_or_isSmall c with hself | hsmall
  · rw [hself] at h
    obtain rfl := List.mem_singleton.1 h
    exact hself
  · exact (hsmall d h).lowerChar_eq

/-- What is no capital has none in its lower case. -/
theorem isUpper_of_mem_lowerChar (hc : isUpper c = false) (h : d ∈ lowerChar c) :
    isUpper d = false := by
  rcases lowerChar_eq_or_isSmall c with hself | hsmall
  · rw [hself] at h
    obtain rfl := List.mem_singleton.1 h
    exact hc
  · exact (hsmall d h).isUpper_eq

/-- The letter y is the lower case of no other character than itself and its capital. -/
theorem eq_of_y_mem_lowerChar (h : 'y' ∈ lowerChar c) : c = 'y' ∨ c = 'Y' := by
  have hcodes : ∀ e ∈ lowerExpansions, 'y' ∉ e.2.map Char.ofNat := by decide
  have hranges : ∀ r ∈ lowerRanges, r.image.contains 121 = true → r.offset = 32 := by
    decide +kernel
  rcases lowerChar_cases c with hc | ⟨e, he, hc⟩ | ⟨r, hr, hn, hc⟩
  · rw [hc] at h
    exact .inl (List.mem_singleton.1 h).symm
  · rw [hc] at h
    exact absurd h (hcodes e he)
  · rw [hc] at h
    have hstart := lowerRanges_start r hr
    have hcode : r.apply c.toNat = 121 := by
      have hy : (Char.ofNat (r.apply c.toNat)).toNat = 121 := by
        rw [← List.mem_singleton.1 h]
        rfl
      rcases toNat_ofNat_cases (r.apply c.toNat) with hsame | hnull <;> omega
    have happly := CaseRange.image_contains (by omega) hn
    rw [hcode] at happly
    have hoffset := hranges r hr happly
    right
    refine Char.toNat_inj.1 ?_
    rw [CaseRange.apply, hoffset] at hcode
    show c.toNat = 89
    omega

/-! ### Texts -/

theorem toList_lower (text : String) : (lower text).toList = lowerFrom [] text.toList :=
  String.toList_ofList

theorem lowerFrom_cons (before : List Char) (c : Char) (rest : List Char) :
    lowerFrom before (c :: rest) =
      (if c = 'Σ' then if meetsCased before && !meetsCased rest then ['ς'] else ['σ']
        else lowerChar c) ++ lowerFrom (c :: before) rest := rfl

end Text

end SearchQuery
