import Mathlib.Data.List.Basic
import Mathlib.Data.List.Forall2
import Mathlib.Tactic.Common
import SearchQuery.Text.Search

/-!
# Separated texts

Where a text lacks the separators that follow it, the whole shows where it ends.

* `append_inj_of_lacks`: two such texts with separators after them are equal only part by part.
* `join_inj`: so are two lists of items in brackets, where this holds for their items.
-/

namespace SearchQuery

namespace Text

variable {separators separators' rest rest' : List Char}

/-- Whether none of the separators occurs. -/
def Lacks (separators : List Char) (text : String) : Prop := ∀ c ∈ text.toList, c ∉ separators

instance (separators : List Char) (text : String) : Decidable (Lacks separators text) :=
  List.decidableBAll (fun c => c ∉ separators) text.toList

/-- Whether one of the separators follows, or nothing. -/
def Follows (separators rest : List Char) : Prop := ∀ c ∈ rest.head?, c ∈ separators

theorem follows_nil (separators : List Char) : Follows separators [] := by
  simp [Follows]

theorem follows_cons {c : Char} (h : c ∈ separators) (rest : List Char) :
    Follows separators (c :: rest) := by
  intro d hd
  obtain rfl : c = d := Option.some.inj hd
  exact h

theorem Follows.mono (h : Follows separators rest) (hsub : separators ⊆ separators') :
    Follows separators' rest :=
  fun c hc => hsub (h c hc)

theorem dropWhile_append_of_lacks {text : String} (htext : Lacks separators text)
    (hrest : Follows separators rest) :
    (text.toList ++ rest).dropWhile (fun c => decide (c ∉ separators)) = rest := by
  rw [List.dropWhile_append_of_pos fun c hc => decide_eq_true (htext c hc)]
  cases rest with
  | nil => rfl
  | cons c rest =>
    have hc : c ∈ separators := hrest c rfl
    rw [List.dropWhile_cons, if_neg (by simpa using hc)]

theorem append_inj_of_lacks {text text' : String} (htext : Lacks separators text)
    (htext' : Lacks separators text') (hrest : Follows separators rest)
    (hrest' : Follows separators rest') (h : text.toList ++ rest = text'.toList ++ rest') :
    text = text' ∧ rest = rest' := by
  have heq : rest = rest' := by
    rw [← dropWhile_append_of_lacks htext hrest, h, dropWhile_append_of_lacks htext' hrest']
  subst heq
  exact ⟨String.toList_inj.1 (List.append_cancel_right h), rfl⟩

/-! ### Lists in brackets -/

/-- What stands behind the first item: the further ones, and the closing bracket. -/
def closing (close : Char) : List String → List Char
  | [] => [close]
  | text :: texts => ',' :: ' ' :: (text.toList ++ closing close texts)

theorem follows_closing (close : Char) (texts : List String) (rest : List Char) :
    Follows [',', close] (closing close texts ++ rest) := by
  cases texts with
  | nil => exact follows_cons (by simp) _
  | cons text texts => exact follows_cons (by simp) _

theorem toList_join_cons (close : Char) (text : String) (texts : List String) :
    (join ", " (text :: texts)).toList ++ [close] = text.toList ++ closing close texts := by
  induction texts generalizing text with
  | nil => rfl
  | cons text' texts ih =>
    have hjoin : join ", " (text :: text' :: texts) = text ++ ", " ++ join ", " (text' :: texts) :=
      rfl
    rw [hjoin, String.toList_append, String.toList_append, List.append_assoc, List.append_assoc, ih]
    rfl

section Items

variable {α : Type} {text : α → String} {same : α → α → Prop} {close : Char} {as bs : List α}

/-- Whether items are equal part by part where a comma or the closing bracket follows. -/
def Delimited (text : α → String) (same : α → α → Prop) (close : Char) (a b : α) : Prop :=
  ∀ rest rest', Follows [',', close] rest → Follows [',', close] rest' →
    (text a).toList ++ rest = (text b).toList ++ rest' → same a b ∧ rest = rest'

theorem closing_inj (hclose : close ≠ ',')
    (hitems : ∀ a ∈ as, ∀ b ∈ bs, Delimited text same close a b)
    (h : closing close (as.map text) ++ rest = closing close (bs.map text) ++ rest') :
    List.Forall₂ same as bs ∧ rest = rest' := by
  induction as generalizing bs with
  | nil =>
    cases bs with
    | nil => exact ⟨.nil, (List.cons.inj h).2⟩
    | cons b bs => exact absurd (List.cons.inj h).1 hclose
  | cons a as ih =>
    cases bs with
    | nil => exact absurd (List.cons.inj h).1.symm hclose
    | cons b bs =>
      have htail : (text a).toList ++ (closing close (as.map text) ++ rest) =
          (text b).toList ++ (closing close (bs.map text) ++ rest') := by
        have hbehind := (List.cons.inj (List.cons.inj h).2).2
        simpa [closing] using hbehind
      obtain ⟨hsame, htail⟩ := hitems a (List.mem_cons_self ..) b (List.mem_cons_self ..) _ _
        (follows_closing _ _ _) (follows_closing _ _ _) htail
      obtain ⟨hrest, heq⟩ := ih
        (fun a ha b hb => hitems a (List.mem_cons_of_mem _ ha) b (List.mem_cons_of_mem _ hb)) htail
      exact ⟨.cons hsame hrest, heq⟩

/-- Lists in brackets are equal item by item, where no item starts with the closing bracket. -/
theorem join_inj (hclose : close ≠ ',')
    (hstart : ∀ a, ∃ c tail, (text a).toList = c :: tail ∧ c ≠ close)
    (hitems : ∀ a ∈ as, ∀ b ∈ bs, Delimited text same close a b)
    (h : (join ", " (as.map text)).toList ++ close :: rest =
      (join ", " (bs.map text)).toList ++ close :: rest') :
    List.Forall₂ same as bs ∧ rest = rest' := by
  have hcons : ∀ a (as : List α) rest, (join ", " ((a :: as).map text)).toList ++ close :: rest =
      (text a).toList ++ (closing close (as.map text) ++ rest) := by
    intro a as rest
    have hjoin := toList_join_cons close (text a) (as.map text)
    rw [← List.append_assoc, ← hjoin, List.append_assoc]
    rfl
  have hne : ∀ a (as : List α) rest rest',
      close :: rest ≠ (join ", " ((a :: as).map text)).toList ++ close :: rest' := by
    intro a as rest rest' heq
    obtain ⟨c, tail, htext, hc⟩ := hstart a
    rw [hcons, htext] at heq
    exact hc (List.cons.inj heq).1.symm
  cases as with
  | nil =>
    cases bs with
    | nil => exact ⟨.nil, (List.cons.inj h).2⟩
    | cons b bs => exact absurd h (hne b bs rest rest')
  | cons a as =>
    cases bs with
    | nil => exact absurd h.symm (hne a as rest' rest)
    | cons b bs =>
      rw [hcons, hcons] at h
      obtain ⟨hsame, h⟩ := hitems a (List.mem_cons_self ..) b (List.mem_cons_self ..) _ _
        (follows_closing _ _ _) (follows_closing _ _ _) h
      obtain ⟨hrest, heq⟩ := closing_inj hclose
        (fun a ha b hb => hitems a (List.mem_cons_of_mem _ ha) b (List.mem_cons_of_mem _ hb)) h
      exact ⟨.cons hsame hrest, heq⟩

end Items

end Text

end SearchQuery
