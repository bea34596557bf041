import SearchQuery.Criteria.Display
import SearchQuery.Proofs.Criteria.Bounds
import SearchQuery.Proofs.Json.Delimited

/-!
# What the text of a criteria tells

The text of a criteria shows its shape, its fields and the texts of its values. It shows neither the
members that the fields come from nor how a set of values is matched. Field paths, prefixes and
patterns are shown as they are, so the text can be read only where no separator occurs in them.

* `Criteria.shown`: the criteria without what is not shown.
* `Legible`: no separator occurs in what is shown without quotes. At the end of the whole text it
  may (`LegibleAlone`).
* `display_eq_iff`: then criteria have the same text exactly where they show the same.
-/

namespace SearchQuery

namespace Criteria

open Text (Lacks Follows)

/-- What may stand behind a field path. -/
def fieldSeparators : List Char := [' ', ',', ')']

/-- What may stand behind a criteria in a compound. -/
def childSeparators : List Char := [',', ')']

/-! ### What is shown -/

/-- The text of a value in place of the value. -/
def shownValue (v : Json) : Json := .str v.render

def shownBound (b : RangeBound) : RangeBound := ⟨b.comparison, shownValue b.value⟩

mutual

/-- The criteria without members and modes of execution, with texts in place of values. -/
def shown : Criteria → Criteria
  | .term f _ v => .term f default (shownValue v)
  | .terms f _ vs _ => .terms f default (vs.map shownValue) none
  | .range f _ bs => .range f default (bs.map shownBound)
  | .startsWith f t => .startsWith f t
  | .regexp f p => .regexp f p
  | .wildcard f _ p => .wildcard f default p
  | .queryString q _ => .queryString q []
  | .present f => .present f
  | .missing f => .missing f
  | .matchAll => .matchAll
  | .not inner => .not (shown inner)
  | .and children => .and (shownList children)
  | .or children => .or (shownList children)
  | .bool must mustNot should =>
    .bool (shownList must) (shownList mustNot) (shownList should)
  | .nop children => .nop (shownList children)

def shownList : List Criteria → List Criteria
  | [] => []
  | c :: rest => shown c :: shownList rest

end

theorem shownList_eq (cs : List Criteria) : shownList cs = cs.map shown := by
  induction cs with
  | nil => rfl
  | cons c rest ih => rw [shownList, ih, List.map_cons]

theorem displayList_eq (cs : List Criteria) : displayList cs = cs.map display := by
  induction cs with
  | nil => rfl
  | cons c rest ih => exact congrArg (c.display :: ·) ih

theorem map_render_of_shownValue {vs ws : List Json}
    (h : vs.map shownValue = ws.map shownValue) : vs.map Json.render = ws.map Json.render := by
  have htext := congrArg (List.map fun v => (Json.text? v).getD "") h
  simpa [shownValue, Json.text?, Function.comp_def] using htext

theorem map_display_of_shownBound {bs bs' : List RangeBound}
    (h : bs.map shownBound = bs'.map shownBound) :
    bs.map (fun b => " " ++ b.display) = bs'.map (fun b => " " ++ b.display) := by
  have htext := congrArg (List.map fun b =>
    " " ++ (b.comparison.name ++ " " ++ (Json.text? b.value).getD "")) h
  simpa [shownBound, shownValue, Json.text?, Function.comp_def, RangeBound.display] using htext

mutual

/-- Nothing else goes into the text. -/
theorem display_of_shown : (c d : Criteria) → c.shown = d.shown → c.display = d.display
  | .term f m v, d, h => by
    cases d with
    | term f' m' w =>
      injection h with hfield _ hvalue
      rw [display_term, display_term, hfield, Json.str.inj hvalue]
    | _ => simp [shown] at h
  | .terms f m vs x, d, h => by
    cases d with
    | terms f' m' ws x' =>
      injection h with hfield _ hvalues
      rw [display_terms, display_terms, hfield, map_render_of_shownValue hvalues]
    | _ => simp [shown] at h
  | .range f m bs, d, h => by
    cases d with
    | range f' m' bs' =>
      injection h with hfield _ hbounds
      rw [display_range, display_range, hfield, map_display_of_shownBound hbounds]
    | _ => simp [shown] at h
  | .startsWith f t, d, h => by
    cases d with
    | startsWith f' t' => rw [show startsWith f t = startsWith f' t' from h]
    | _ => simp [shown] at h
  | .regexp f p, d, h => by
    cases d with
    | regexp f' p' => rw [show regexp f p = regexp f' p' from h]
    | _ => simp [shown] at h
  | .wildcard f m p, d, h => by
    cases d with
    | wildcard f' m' p' =>
      injection h with hfield _ hpattern
      rw [display_wildcard, display_wildcard, hfield, hpattern]
    | _ => simp [shown] at h
  | .queryString q fs, d, h => by
    cases d with
    | queryString q' fs' =>
      injection h with hquery _
      rw [display_queryString, display_queryString, hquery]
    | _ => simp [shown] at h
  | .present f, d, h => by
    cases d with
    | present f' => rw [show present f = present f' from h]
    | _ => simp [shown] at h
  | .missing f, d, h => by
    cases d with
    | missing f' => rw [show missing f = missing f' from h]
    | _ => simp [shown] at h
  | .matchAll, d, h => by
    cases d with
    | matchAll => rfl
    | _ => simp [shown] at h
  | .not inner, d, h => by
    cases d with
    | not inner' =>
      injection h with hinner
      rw [display_not, display_not, display_of_shown inner inner' hinner]
    | _ => simp [shown] at h
  | .and cs, d, h => by
    cases d with
    | and ds =>
      injection h with hchildren
      rw [display_and, display_and, displayList_of_shownList cs ds hchildren]
    | _ => simp [shown] at h
  | .or cs, d, h => by
    cases d with
    | or ds =>
      injection h with hchildren
      rw [display_or, display_or, displayList_of_shownList cs ds hchildren]
    | _ => simp [shown] at h
  | .nop cs, d, h => by
    cases d with
    | nop ds =>
      injection h with hchildren
      rw [display_nop, display_nop, displayList_of_shownList cs ds hchildren]
    | _ => simp [shown] at h
  | .bool must mustNot should, d, h => by
    cases d with
    | bool must' mustNot' should' =>
      injection h with hmust hmustNot hshould
      rw [display_bool, display_bool, displayList_of_shownList must must' hmust,
        displayList_of_shownList mustNot mustNot' hmustNot,
        displayList_of_shownList should should' hshould]
    | _ => simp [shown] at h

theorem displayList_of_shownList :
    (cs ds : List Criteria) → shownList cs = shownList ds → displayList cs = displayList ds
  | [], [], _ => rfl
  | [], _ :: _, h => by simp [shownList] at h
  | _ :: _, [], h => by simp [shownList] at h
  | c :: cs, d :: ds, h => by
    obtain ⟨hhead, htail⟩ := List.cons.inj h
    exact congrArg₂ List.cons (display_of_shown c d hhead) (displayList_of_shownList cs ds htail)

end

/-! ### Legible criteria -/

/-- Whether no separator occurs in what is shown without quotes. -/
inductive Legible : Criteria → Prop
  | term {f m v} (hf : Lacks fieldSeparators f) : Legible (.term f m v)
  | terms {f m vs x} (hf : Lacks fieldSeparators f) : Legible (.terms f m vs x)
  | range {f m bs} (hf : Lacks fieldSeparators f) : Legible (.range f m bs)
  | startsWith {f t} (hf : Lacks fieldSeparators f) (ht : Lacks childSeparators t) :
    Legible (.startsWith f t)
  | regexp {f p} (hf : Lacks fieldSeparators f) (hp : Lacks childSeparators p) :
    Legible (.regexp f p)
  | present {f} (hf : Lacks fieldSeparators f) : Legible (.present f)
  | missing {f} (hf : Lacks fieldSeparators f) : Legible (.missing f)
  | matchAll : Legible .matchAll
  | not {c} (h : Legible c) : Legible (.not c)
  | and {cs} (h : ∀ c ∈ cs, Legible c) : Legible (.and cs)
  | or {cs} (h : ∀ c ∈ cs, Legible c) : Legible (.or cs)

variable {c d : Criteria} {rest rest' : List Char}

/-- The text of a criteria starts with its kind. -/
theorem exists_text (hc : c ≠ .matchAll) : ∃ text, c.display = c.kind ++ " " ++ text := by
  cases c with
  | term f m v => exact ⟨f ++ " " ++ v.render, by simp [kind, ← String.append_assoc]⟩
  | terms f m vs x =>
    exact ⟨f ++ " [" ++ Text.join ", " (vs.map Json.render) ++ "]", by
      simp [kind, ← String.append_assoc]⟩
  | range f m bs =>
    exact ⟨f ++ String.join (bs.map fun b => " " ++ b.display), by
      simp [kind, ← String.append_assoc]⟩
  | startsWith f t | regexp f t | wildcard f m t =>
    exact ⟨f ++ " " ++ t, by simp [kind, ← String.append_assoc]⟩
  | queryString t fs | present t | missing t => exact ⟨t, by simp [kind]⟩
  | matchAll => exact absurd rfl hc
  | not inner => exact ⟨inner.display, by simp [kind]⟩
  | and cs | or cs | nop cs =>
    exact ⟨"(" ++ Text.join ", " (displayList cs) ++ ")", by
      simp [kind, ← String.append_assoc]⟩
  | bool must mustNot should =>
    exact ⟨"must (" ++ Text.join ", " (displayList must) ++ ") should (" ++
      Text.join ", " (displayList should) ++ ") must_not (" ++
      Text.join ", " (displayList mustNot) ++ ")", by
        simp [kind, ← String.append_assoc]⟩

theorem lacks_kind (c : Criteria) : Lacks fieldSeparators c.kind := by
  cases c <;> (rw [kind]; decide)

theorem exists_display (c : Criteria) (hrest : Follows childSeparators rest) :
    ∃ tail, c.display.toList ++ rest = c.kind.toList ++ tail ∧ Follows fieldSeparators tail := by
  by_cases hc : c = .matchAll
  · subst hc
    exact ⟨rest, rfl, hrest.mono (by decide)⟩
  · obtain ⟨text, htext⟩ := exists_text hc
    refine ⟨' ' :: (text.toList ++ rest), ?_, Text.follows_cons (by decide) _⟩
    rw [htext, String.toList_append, String.toList_append, List.append_assoc, List.append_assoc]
    rfl

/-- Criteria with one text are of one kind. -/
theorem kind_eq_of_display (hrest : Follows childSeparators rest)
    (hrest' : Follows childSeparators rest')
    (h : c.display.toList ++ rest = d.display.toList ++ rest') : c.kind = d.kind := by
  obtain ⟨tail, htext, htail⟩ := exists_display c hrest
  obtain ⟨tail', htext', htail'⟩ := exists_display d hrest'
  rw [htext, htext'] at h
  exact (Text.append_inj_of_lacks (lacks_kind c) (lacks_kind d) htail htail' h).1

/-! ### Reading the text -/

theorem value_inj {v w : Json} (hrest : Follows childSeparators rest)
    (hrest' : Follows childSeparators rest')
    (h : v.render.toList ++ rest = w.render.toList ++ rest') :
    shownValue v = shownValue w ∧ rest = rest' := by
  obtain ⟨hvalue, heq⟩ := Json.render_append_inj (hrest.mono (by decide)) (hrest'.mono (by decide)) h
  exact ⟨congrArg Json.str hvalue, heq⟩

theorem values_inj {vs ws : List Json}
    (h : (Text.join ", " (vs.map Json.render)).toList ++ ']' :: rest =
      (Text.join ", " (ws.map Json.render)).toList ++ ']' :: rest') :
    vs.map shownValue = ws.map shownValue ∧ rest = rest' := by
  have hstart : ∀ v : Json, ∃ c tail, v.render.toList = c :: tail ∧ c ≠ ']' := by
    intro v
    obtain ⟨c, tail, htext, hc⟩ := Json.render_start v
    exact ⟨c, tail, htext, fun heq => hc (by rw [heq]; decide)⟩
  have hitems : ∀ v ∈ vs, ∀ w ∈ ws,
      Text.Delimited Json.render (fun v w => shownValue v = shownValue w) ']' v w := by
    intro v _ w _ rest rest' hrest hrest' heq
    obtain ⟨hvalue, heq⟩ :=
      Json.render_append_inj (hrest.mono (by decide)) (hrest'.mono (by decide)) heq
    exact ⟨congrArg Json.str hvalue, heq⟩
  obtain ⟨hsame, heq⟩ := Text.join_inj (by decide) hstart hitems h
  refine ⟨?_, heq⟩
  rw [← List.forall₂_eq_eq_eq, List.forall₂_map_left_iff, List.forall₂_map_right_iff]
  exact hsame

theorem toList_bounds_cons (b : RangeBound) (bs : List RangeBound) (rest : List Char) :
    (String.join ((b :: bs).map fun b => " " ++ b.display)).toList ++ rest =
      ' ' :: (b.comparison.name.toList ++ ' ' :: (b.value.render.toList ++
        ((String.join (bs.map fun b => " " ++ b.display)).toList ++ rest))) := by
  rw [List.map_cons, String.join_cons, RangeBound.display]
  simp only [String.toList_append, List.append_assoc]
  rfl

theorem follows_bounds (bs : List RangeBound) (hrest : Follows childSeparators rest) :
    Follows fieldSeparators
      ((String.join (bs.map fun b => " " ++ b.display)).toList ++ rest) := by
  cases bs with
  | nil => exact hrest.mono (by decide)
  | cons b bs =>
    rw [toList_bounds_cons]
    exact Text.follows_cons (by decide) _

theorem bounds_inj {bs bs' : List RangeBound} (hrest : Follows childSeparators rest)
    (hrest' : Follows childSeparators rest')
    (h : (String.join (bs.map fun b => " " ++ b.display)).toList ++ rest =
      (String.join (bs'.map fun b => " " ++ b.display)).toList ++ rest') :
    bs.map shownBound = bs'.map shownBound ∧ rest = rest' := by
  have hblank : ∀ {rest : List Char} tail, Follows childSeparators rest → rest ≠ ' ' :: tail := by
    rintro rest tail hrest rfl
    have hmem := hrest ' ' rfl
    revert hmem
    decide
  induction bs generalizing bs' with
  | nil =>
    cases bs' with
    | nil => exact ⟨rfl, h⟩
    | cons b bs' =>
      rw [toList_bounds_cons] at h
      exact absurd h (hblank _ hrest)
  | cons b bs ih =>
    cases bs' with
    | nil =>
      rw [toList_bounds_cons] at h
      exact absurd h.symm (hblank _ hrest')
    | cons b' bs' =>
      rw [toList_bounds_cons, toList_bounds_cons] at h
      have hname : ∀ comparison : RangeComparison, Lacks [' '] comparison.name := by
        intro comparison
        cases comparison <;> decide
      obtain ⟨hcomparison, hvalue⟩ := Text.append_inj_of_lacks (hname _) (hname _)
        (Text.follows_cons (by decide) _) (Text.follows_cons (by decide) _) (List.cons.inj h).2
      obtain ⟨hrender, hbounds⟩ := Json.render_append_inj
        ((follows_bounds bs hrest).mono (by decide)) ((follows_bounds bs' hrest').mono (by decide))
        (List.cons.inj hvalue).2
      obtain ⟨hmap, heq⟩ := ih hbounds
      refine ⟨?_, heq⟩
      rw [List.map_cons, List.map_cons, hmap, shownBound, shownBound, shownValue, shownValue,
        RangeComparison.name_injective hcomparison, hrender]

/-- No criteria has a text that starts with a closing bracket. -/
theorem display_start (c : Criteria) : ∃ head tail, c.display.toList = head :: tail ∧ head ≠ ')' := by
  have hkind : c.kind.toList ≠ [] ∧ ')' ∉ c.kind.toList := by
    cases c <;> (rw [kind]; decide)
  obtain ⟨head, tail, htext⟩ := List.exists_cons_of_ne_nil hkind.1
  obtain ⟨tail', hdisplay, -⟩ := exists_display c (Text.follows_nil _)
  rw [List.append_nil, htext] at hdisplay
  refine ⟨head, tail ++ tail', hdisplay, ?_⟩
  rintro rfl
  exact hkind.2 (htext ▸ List.mem_cons_self ..)

/-- Whether a text with this criteria in front shows what it shows. -/
def Reads (c : Criteria) : Prop :=
  ∀ {d : Criteria} {rest rest' : List Char}, d.Legible → Follows childSeparators rest →
    Follows childSeparators rest' → c.display.toList ++ rest = d.display.toList ++ rest' →
    c.shown = d.shown ∧ rest = rest'

/-- Only criteria of one kind have to be compared. -/
theorem reads_of_kind
    (h : ∀ {d : Criteria} {rest rest' : List Char}, d.Legible → c.kind = d.kind →
      Follows childSeparators rest → Follows childSeparators rest' →
      c.display.toList ++ rest = d.display.toList ++ rest' → c.shown = d.shown ∧ rest = rest') :
    c.Reads :=
  fun hd hrest hrest' htext => h hd (kind_eq_of_display hrest hrest' htext) hrest hrest' htext

theorem children_inj {cs ds : List Criteria} (hcs : ∀ c ∈ cs, c.Reads) (hds : ∀ d ∈ ds, d.Legible)
    (h : (Text.join ", " (displayList cs)).toList ++ ')' :: rest =
      (Text.join ", " (displayList ds)).toList ++ ')' :: rest') :
    shownList cs = shownList ds ∧ rest = rest' := by
  rw [displayList_eq, displayList_eq] at h
  have hitems : ∀ c ∈ cs, ∀ d ∈ ds,
      Text.Delimited display (fun c d => c.shown = d.shown) ')' c d := by
    intro c hc d hd rest rest' hrest hrest' heq
    exact hcs c hc (hds d hd) hrest hrest' heq
  obtain ⟨hsame, heq⟩ := Text.join_inj (by decide) display_start hitems h
  refine ⟨?_, heq⟩
  rw [shownList_eq, shownList_eq, ← List.forall₂_eq_eq_eq, List.forall₂_map_left_iff,
    List.forall₂_map_right_iff]
  exact hsame

/-- A field path is read up to the separator behind it. -/
theorem field_inj {f f' : String} {tail tail' : List Char} (hf : Lacks fieldSeparators f)
    (hf' : Lacks fieldSeparators f')
    (h : f.toList ++ ' ' :: tail = f'.toList ++ ' ' :: tail') : f = f' ∧ tail = tail' := by
  obtain ⟨hfield, heq⟩ := Text.append_inj_of_lacks hf hf' (Text.follows_cons (by decide) _)
    (Text.follows_cons (by decide) _) h
  exact ⟨hfield, (List.cons.inj heq).2⟩

/-- A legible criteria can be read off its text, whatever follows. -/
theorem Legible.reads (hc : c.Legible) : c.Reads := by
  -- By induction on what is read: its kind tells what the other criteria is, and the pieces behind
  -- the kind are compared from left to right.
  induction hc with
  | term hf =>
    refine reads_of_kind fun hd hkind hrest hrest' h => ?_
    cases hd with
    | term hf' =>
      simp only [display_term, String.toList_append, List.append_assoc] at h
      obtain ⟨rfl, htail⟩ := field_inj hf hf' (List.append_cancel_left h)
      obtain ⟨hvalue, heq⟩ := value_inj hrest hrest' htail
      exact ⟨by rw [shown, shown, hvalue], heq⟩
    | _ => exact absurd hkind (by simp [kind])
  | terms hf =>
    refine reads_of_kind fun hd hkind hrest hrest' h => ?_
    cases hd with
    | terms hf' =>
      simp only [display_terms, String.toList_append, List.append_assoc] at h
      obtain ⟨rfl, htail⟩ := field_inj hf hf' (List.append_cancel_left h)
      obtain ⟨hvalues, heq⟩ := values_inj (List.cons.inj htail).2
      exact ⟨by rw [shown, shown, hvalues], heq⟩
    | _ => exact absurd hkind (by simp [kind])
  | range hf =>
    refine reads_of_kind fun hd hkind hrest hrest' h => ?_
    cases hd with
    | range hf' =>
      simp only [display_range, String.toList_append, List.append_assoc] at h
      obtain ⟨rfl, htail⟩ := Text.append_inj_of_lacks hf hf' (follows_bounds _ hrest)
        (follows_bounds _ hrest') (List.append_cancel_left h)
      obtain ⟨hbounds, heq⟩ := bounds_inj hrest hrest' htail
      exact ⟨by rw [shown, shown, hbounds], heq⟩
    | _ => exact absurd hkind (by simp [kind])
  | startsWith hf ht =>
    refine reads_of_kind fun hd hkind hrest hrest' h => ?_
    cases hd with
    | startsWith hf' ht' =>
      simp only [display_startsWith, String.toList_append, List.append_assoc] at h
      obtain ⟨rfl, htail⟩ := field_inj hf hf' (List.append_cancel_left h)
      obtain ⟨rfl, heq⟩ := Text.append_inj_of_lacks ht ht' hrest hrest' htail
      exact ⟨rfl, heq⟩
    | _ => exact absurd hkind (by simp [kind])
  | regexp hf hp =>
    refine reads_of_kind fun hd hkind hrest hrest' h => ?_
    cases hd with
    | regexp hf' hp' =>
      simp only [display_regexp, String.toList_append, List.append_assoc] at h
      obtain ⟨rfl, htail⟩ := field_inj hf hf' (List.append_cancel_left h)
      obtain ⟨rfl, heq⟩ := Text.append_inj_of_lacks hp hp' hrest hrest' htail
      exact ⟨rfl, heq⟩
    | _ => exact absurd hkind (by simp [kind])
  | present hf =>
    refine reads_of_kind fun hd hkind hrest hrest' h => ?_
    cases hd with
    | present hf' =>
      simp only [display_present, String.toList_append, List.append_assoc] at h
      obtain ⟨rfl, heq⟩ := Text.append_inj_of_lacks hf hf' (hrest.mono (by decide))
        (hrest'.mono (by decide)) (List.append_cancel_left h)
      exact ⟨rfl, heq⟩
    | _ => exact absurd hkind (by simp [kind])
  | missing hf =>
    refine reads_of_kind fun hd hkind hrest hrest' h => ?_
    cases hd with
    | missing hf' =>
      simp only [display_missing, String.toList_append, List.append_assoc] at h
      obtain ⟨rfl, heq⟩ := Text.append_inj_of_lacks hf hf' (hrest.mono (by decide))
        (hrest'.mono (by decide)) (List.append_cancel_left h)
      exact ⟨rfl, heq⟩
    | _ => exact absurd hkind (by simp [kind])
  | matchAll =>
    refine reads_of_kind fun hd hkind hrest hrest' h => ?_
    cases hd with
    | matchAll => exact ⟨rfl, List.append_cancel_left h⟩
    | _ => exact absurd hkind (by simp [kind])
  | not _ ih =>
    refine reads_of_kind fun hd hkind hrest hrest' h => ?_
    cases hd with
    | not hd' =>
      simp only [display_not, String.toList_append, List.append_assoc] at h
      obtain ⟨hinner, heq⟩ := ih hd' hrest hrest' (List.append_cancel_left h)
      exact ⟨by rw [shown, shown, hinner], heq⟩
    | _ => exact absurd hkind (by simp [kind])
  | and _ ih =>
    refine reads_of_kind fun hd hkind hrest hrest' h => ?_
    cases hd with
    | and hds =>
      simp only [display_and, String.toList_append, List.append_assoc] at h
      obtain ⟨hchildren, heq⟩ := children_inj ih hds (List.append_cancel_left h)
      exact ⟨by rw [shown, shown, hchildren], heq⟩
    | _ => exact absurd hkind (by simp [kind])
  | or _ ih =>
    refine reads_of_kind fun hd hkind hrest hrest' h => ?_
    cases hd with
    | or hds =>
      simp only [display_or, String.toList_append, List.append_assoc] at h
      obtain ⟨hchildren, heq⟩ := children_inj ih hds (List.append_cancel_left h)
      exact ⟨by rw [shown, shown, hchildren], heq⟩
    | _ => exact absurd hkind (by simp [kind])

/-! ### Texts that stand alone -/

/-- Where nothing follows, a prefix or a pattern may hold separators. -/
inductive LegibleAlone : Criteria → Prop
  | legible {c : Criteria} (h : Legible c) : LegibleAlone c
  | startsWith {f t} (hf : Lacks fieldSeparators f) : LegibleAlone (.startsWith f t)
  | regexp {f p} (hf : Lacks fieldSeparators f) : LegibleAlone (.regexp f p)

namespace LegibleAlone

theorem exists_startsWith (h : c.LegibleAlone) (hkind : c.kind = "prefix") :
    ∃ f t, c = .startsWith f t ∧ Lacks fieldSeparators f := by
  cases h with
  | legible h =>
    cases h with
    | startsWith hf => exact ⟨_, _, rfl, hf⟩
    | _ => exact absurd hkind (by simp [kind])
  | startsWith hf => exact ⟨_, _, rfl, hf⟩
  | regexp hf => exact absurd hkind (by simp [kind])

theorem exists_regexp (h : c.LegibleAlone) (hkind : c.kind = "regexp") :
    ∃ f p, c = .regexp f p ∧ Lacks fieldSeparators f := by
  cases h with
  | legible h =>
    cases h with
    | regexp hf => exact ⟨_, _, rfl, hf⟩
    | _ => exact absurd hkind (by simp [kind])
  | startsWith hf => exact absurd hkind (by simp [kind])
  | regexp hf => exact ⟨_, _, rfl, hf⟩

theorem legible_of_kind (h : c.LegibleAlone) (hstarts : c.kind ≠ "prefix")
    (hregexp : c.kind ≠ "regexp") : c.Legible := by
  cases h with
  | legible h => exact h
  | startsWith hf => exact absurd rfl hstarts
  | regexp hf => exact absurd rfl hregexp

end LegibleAlone

/-- **What the text tells.** Criteria that are legible alone have the same text exactly where they
show the same. -/
theorem display_eq_iff (hc : c.LegibleAlone) (hd : d.LegibleAlone) :
    c.display = d.display ↔ c.shown = d.shown := by
  refine ⟨fun h => ?_, display_of_shown c d⟩
  have htext : c.display.toList ++ [] = d.display.toList ++ [] := by rw [h]
  have hkind : c.kind = d.kind := kind_eq_of_display (Text.follows_nil _) (Text.follows_nil _) htext
  by_cases hstarts : d.kind = "prefix"
  · obtain ⟨f, t, rfl, hf⟩ := hc.exists_startsWith (hkind.trans hstarts)
    obtain ⟨f', t', rfl, hf'⟩ := hd.exists_startsWith hstarts
    simp only [display_startsWith, String.toList_append, List.append_assoc] at htext
    obtain ⟨rfl, htail⟩ := field_inj hf hf' (List.append_cancel_left htext)
    rw [String.toList_inj.1 (List.append_cancel_right htail)]
  · by_cases hregexp : d.kind = "regexp"
    · obtain ⟨f, p, rfl, hf⟩ := hc.exists_regexp (hkind.trans hregexp)
      obtain ⟨f', p', rfl, hf'⟩ := hd.exists_regexp hregexp
      simp only [display_regexp, String.toList_append, List.append_assoc] at htext
      obtain ⟨rfl, htail⟩ := field_inj hf hf' (List.append_cancel_left htext)
      rw [String.toList_inj.1 (List.append_cancel_right htail)]
    · have hlegible := hc.legible_of_kind (hkind ▸ hstarts) (hkind ▸ hregexp)
      have hlegible' := hd.legible_of_kind hstarts hregexp
      exact (hlegible.reads hlegible' (Text.follows_nil _) (Text.follows_nil _) htext).1

end Criteria

end SearchQuery
