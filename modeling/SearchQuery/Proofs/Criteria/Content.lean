import Mathlib.Algebra.Group.Prod
import Mathlib.Algebra.Order.Group.Multiset
import SearchQuery.Proofs.Criteria.Shape

/-!
# The content of criteria

The content of a criteria are its leaves that are no ranges, and the bounds of its ranges, each
together with its field; both are counted. The combination rules keep the content of their parts:
no leaf is lost or doubled, and a bound is dropped only where the same bound is kept on its field.
-/

namespace SearchQuery

/-- Leaves that are no ranges, and bounds of ranges. -/
abbrev Content := Multiset Criteria × Multiset (String × RangeBound)

namespace Criteria

/-- What matches everything has no content, and the content of a range are its bounds. -/
def leafContent : Criteria → Content
  | .range f _ bounds => (0, bounds.map (f, ·))
  | .matchAll => 0
  | c => ({c}, 0)

mutual

/-- The content of a criteria. A place holder has none: its children were moved elsewhere. -/
def content : Criteria → Content
  | .not inner => content inner
  | .and children | .or children => contentOfAll children
  | .bool must mustNot should =>
    contentOfAll must + contentOfAll mustNot + contentOfAll should
  | .nop _ => 0
  | c => leafContent c

@[simp] def contentOfAll : List Criteria → Content
  | [] => 0
  | c :: rest => content c + contentOfAll rest

end

theorem contentOfAll_append (cs ds : List Criteria) :
    contentOfAll (cs ++ ds) = contentOfAll cs + contentOfAll ds := by
  induction cs with
  | nil => simp
  | cons c rest ih => simp [ih, add_assoc]

theorem contentOfAll_singleton (c : Criteria) : contentOfAll [c] = content c := by
  simp

theorem contentOfAll_flatMap {f : Criteria → List Criteria}
    (h : ∀ c, contentOfAll (f c) = content c) (cs : List Criteria) :
    contentOfAll (cs.flatMap f) = contentOfAll cs := by
  induction cs with
  | nil => rfl
  | cons c rest ih => rw [List.flatMap_cons, contentOfAll_append, h, ih, contentOfAll]

theorem content_of_isNop {c : Criteria} (h : c.isNop = true) : c.content = 0 := by
  cases c <;> first | rfl | cases h

theorem contentOfAll_conjuncts (c : Criteria) : contentOfAll c.conjuncts = content c := by
  unfold conjuncts
  split
  · rw [content]
  · exact contentOfAll_singleton _

theorem contentOfAll_disjuncts (c : Criteria) : contentOfAll c.disjuncts = content c := by
  unfold disjuncts
  split
  · rw [content]
  · exact contentOfAll_singleton _

end Criteria

/-! ### Kept content -/

theorem RangeBound.same_refl (b : RangeBound) : b.same b = true := by
  simp [RangeBound.same]

theorem RangeBound.same_trans {a b c : RangeBound} (hab : a.same b = true) (hbc : b.same c = true) :
    a.same c = true := by
  simp only [RangeBound.same, beq_iff_eq] at hab hbc ⊢
  exact hab.trans hbc

/-- The content without bounds that are the same as one that is kept on their field. -/
structure Content.Keeps (kept all : Content) : Prop where
  leaves : kept.1 = all.1
  bounds : kept.2 ≤ all.2
  covers : ∀ x ∈ all.2, ∃ y ∈ kept.2, y.1 = x.1 ∧ y.2.same x.2 = true

namespace Content.Keeps

variable {a b c d : Content}

theorem refl (a : Content) : a.Keeps a :=
  ⟨rfl, le_refl _, fun x hx => ⟨x, hx, rfl, x.2.same_refl⟩⟩

theorem of_eq (h : a = b) : a.Keeps b := h ▸ refl a

theorem trans (hab : a.Keeps b) (hbc : b.Keeps c) : a.Keeps c := by
  refine ⟨hab.leaves.trans hbc.leaves, hab.bounds.trans hbc.bounds, fun x hx => ?_⟩
  obtain ⟨y, hy, hfield, hsame⟩ := hbc.covers x hx
  obtain ⟨z, hz, hfield', hsame'⟩ := hab.covers y hy
  exact ⟨z, hz, hfield'.trans hfield, RangeBound.same_trans hsame' hsame⟩

theorem add (hac : a.Keeps c) (hbd : b.Keeps d) : (a + b).Keeps (c + d) := by
  refine ⟨congrArg₂ (· + ·) hac.leaves hbd.leaves, add_le_add hac.bounds hbd.bounds,
    fun x hx => ?_⟩
  rcases Multiset.mem_add.1 hx with hx | hx
  · obtain ⟨y, hy, h⟩ := hac.covers x hx
    exact ⟨y, Multiset.mem_add.2 (.inl hy), h⟩
  · obtain ⟨y, hy, h⟩ := hbd.covers x hx
    exact ⟨y, Multiset.mem_add.2 (.inr hy), h⟩

end Content.Keeps

/-! ### Merging ranges -/

namespace RangeBound

/-- The content of a range on a field. -/
def content (field : String) (bounds : List RangeBound) : Content := (0, bounds.map (field, ·))

theorem content_append (field : String) (bounds more : List RangeBound) :
    content field (bounds ++ more) = content field bounds + content field more := by
  simp [content]

theorem keeps_pushNew (field : String) (bounds : List RangeBound) (b : RangeBound) :
    (content field (pushNew bounds b)).Keeps (content field bounds + content field [b]) := by
  unfold pushNew
  split_ifs with hin
  · refine ⟨rfl, Multiset.le_add_right _ _, fun x hx => ?_⟩
    rcases Multiset.mem_add.1 hx with hx | hx
    · exact ⟨x, hx, rfl, x.2.same_refl⟩
    · obtain ⟨b', hmem, hsame⟩ := List.any_eq_true.1 hin
      obtain rfl : x = (field, b) := by simpa [content] using hx
      exact ⟨(field, b'), by simpa [content] using hmem, rfl, hsame⟩
  · exact .of_eq (content_append _ _ _)

theorem keeps_extend (field : String) (bounds more : List RangeBound) :
    (content field (extend bounds more)).Keeps (content field bounds + content field more) := by
  induction more generalizing bounds with
  | nil => exact .of_eq (by simp [extend, content])
  | cons b rest ih =>
    have hpush := (keeps_pushNew field bounds b).add (.refl (content field rest))
    rw [add_assoc, ← content_append field [b] rest] at hpush
    exact (ih (pushNew bounds b)).trans hpush

end RangeBound

namespace Criteria

theorem keeps_mergeBounds (field : String) (m : Member) (more : List RangeBound)
    (merged : List Criteria) :
    (contentOfAll (mergeBounds field m more merged)).Keeps
      (contentOfAll merged + RangeBound.content field more) := by
  fun_induction mergeBounds field m more merged with
  | case1 => exact .of_eq (by simp [content, leafContent, RangeBound.content])
  | case2 f m' bounds rest h =>
    rw [contentOfAll, contentOfAll, h.1, add_right_comm]
    exact (RangeBound.keeps_extend field bounds more).add (.refl _)
  | case3 f m' bounds rest h ih =>
    rw [contentOfAll, contentOfAll, add_assoc]
    exact (Content.Keeps.refl _).add ih
  | case4 c rest h ih =>
    rw [contentOfAll, contentOfAll, add_assoc]
    exact (Content.Keeps.refl _).add ih

theorem keeps_mergeOne (merged : List Criteria) (c : Criteria) :
    (contentOfAll (mergeOne merged c)).Keeps (contentOfAll merged + content c) := by
  unfold mergeOne
  split
  · exact keeps_mergeBounds _ _ _ _
  · exact .of_eq (by rw [contentOfAll_append, contentOfAll_singleton])

theorem keeps_mergeRanges (cs : List Criteria) :
    (contentOfAll (mergeRanges cs)).Keeps (contentOfAll cs) := by
  suffices h : ∀ merged, (contentOfAll (cs.foldl mergeOne merged)).Keeps
      (contentOfAll merged + contentOfAll cs) by
    simpa [mergeRanges] using h []
  induction cs with
  | nil => exact fun merged => .of_eq (by simp)
  | cons c rest ih =>
    intro merged
    have hone := (keeps_mergeOne merged c).add (.refl (contentOfAll rest))
    rw [add_assoc] at hone
    exact (ih (mergeOne merged c)).trans hone

/-! ### Combining -/

/-- The content of a criteria that is there. -/
def contentOfOption (c : Option Criteria) : Content := c.elim 0 content

theorem keeps_andAll (cs : List Criteria) :
    (contentOfOption (andAll cs)).Keeps (contentOfAll cs) := by
  have hmerge := keeps_mergeRanges (cs.flatMap conjuncts)
  rw [contentOfAll_flatMap contentOfAll_conjuncts] at hmerge
  unfold andAll
  split
  · rename_i hnil
    rwa [hnil] at hmerge
  · rename_i c hc
    rwa [hc, contentOfAll_singleton] at hmerge
  · exact hmerge

theorem contentOfOption_orAll (cs : List Criteria) :
    contentOfOption (orAll cs) = contentOfAll cs := by
  rw [← contentOfAll_flatMap contentOfAll_disjuncts]
  unfold orAll
  split
  · rename_i hnil
    rw [hnil]
    rfl
  · rename_i c hc
    rw [hc, contentOfAll_singleton]
    rfl
  · rfl

theorem keeps_andInto (current : Option Criteria) (c : Criteria) :
    (content (andInto current c)).Keeps (contentOfOption current + content c) := by
  cases current with
  | none => exact .of_eq (by simp [andInto, contentOfOption])
  | some root =>
    have hand := keeps_andAll [root, c]
    rw [contentOfAll, contentOfAll_singleton] at hand
    rw [andInto]
    cases hc : andAll [root, c] with
    | none =>
      rw [hc] at hand
      simpa [content, contentOfOption] using hand
    | some d =>
      rw [hc] at hand
      exact hand

theorem content_boolMust (query : Option Criteria) (c : Criteria) :
    content (boolMust query c) = contentOfOption query + content c := by
  unfold boolMust
  split
  · simp [content, contentOfOption]
  · simp only [content, contentOfOption, contentOfAll_append, contentOfAll_singleton,
      Option.elim_some]
    ac_rfl
  · rw [content, contentOfOption]
    simp

theorem content_boolShould (query : Option Criteria) (c : Criteria) :
    content (boolShould query c) = contentOfOption query + content c := by
  unfold boolShould
  split
  · simp [content, contentOfOption]
  · simp only [content, contentOfOption, contentOfAll_append, contentOfAll_singleton,
      Option.elim_some, add_assoc]
  · rw [content, contentOfOption]
    simp

end Criteria

end SearchQuery
