import Mathlib.Data.List.Forall2
import SearchQuery.Observation.Basic

/-!
# Successful computations

A sequence of computations succeeds when each of them does, on what the one before it gives, and
fails with the first failure (`failure?`). Two computations agree when they succeed alike (`Agree`),
whatever their errors; where these matter, it is by their kind (`upToKind`).
-/

namespace SearchQuery

variable {ε δ α β : Type}

theorem bind_eq_ok {x : Except ε α} {f : α → Except ε β} {b : β} :
    x >>= f = .ok b ↔ ∃ a, x = .ok a ∧ f a = .ok b := by
  cases x with
  | error e => simp [bind, Except.bind]
  | ok a => simp [bind, Except.bind]

theorem bind_eq_error {x : Except ε α} {f : α → Except ε β} {e : ε} :
    x >>= f = .error e ↔ x = .error e ∨ ∃ a, x = .ok a ∧ f a = .error e := by
  cases x with
  | error e' => simp [bind, Except.bind]
  | ok a => simp [bind, Except.bind]

theorem map_eq_ok {x : Except ε α} {f : α → β} {b : β} :
    x.map f = .ok b ↔ ∃ a, x = .ok a ∧ f a = b := by
  cases x with
  | error e => simp [Except.map]
  | ok a => simp [Except.map]

theorem map_eq_error {x : Except ε α} {f : α → β} {e : ε} :
    x.map f = .error e ↔ x = .error e := by
  cases x <;> simp [Except.map]

theorem mapError_eq_ok {x : Except ε α} {f : ε → δ} {a : α} :
    x.mapError f = .ok a ↔ x = .ok a := by
  cases x with
  | error e => constructor <;> intro h <;> cases h
  | ok a => constructor <;> intro h <;> cases h <;> rfl

theorem toOption_eq_some {x : Except ε α} {a : α} : x.toOption = some a ↔ x = .ok a := by
  cases x with
  | error e => simp [Except.toOption]
  | ok a => simp [Except.toOption]

theorem pure_eq_ok {a b : α} : (pure a : Except ε α) = .ok b ↔ a = b := by
  simp [pure, Except.pure]

theorem Traced.bind_eq_ok {x : Traced α} {f : α → Traced β} {b : β} :
    (x >>= f).result = .ok b ↔ ∃ a, x.result = .ok a ∧ (f a).result = .ok b := by
  rw [Traced.result_bind, SearchQuery.bind_eq_ok]

/-! ### Failures -/

/-- The error of a computation that fails. -/
def failure? : Except ε α → Option ε
  | .ok _ => none
  | .error e => some e

theorem failure?_eq_some {x : Except ε α} {e : ε} : failure? x = some e ↔ x = .error e := by
  cases x <;> simp [failure?]

theorem failure?_eq_none {x : Except ε α} : failure? x = none ↔ ∃ a, x = .ok a := by
  cases x <;> simp [failure?]

/-- What comes after a computation fails only where the computation succeeds. -/
theorem failure?_bind {x : Except ε α} {f : α → Except ε β} {later : Option ε}
    (h : ∀ a, x = .ok a → failure? (f a) = later) : failure? (x >>= f) = (failure? x).or later := by
  cases x with
  | error e => rfl
  | ok a => exact h a rfl

theorem failure?_bind_pure (x : Except ε α) (f : α → β) :
    failure? (x >>= fun a => pure (f a)) = failure? x := by
  cases x <;> rfl

theorem failure?_map (x : Except ε α) (f : α → β) : failure? (x.map f) = failure? x := by
  cases x <;> rfl

/-- A list is mapped up to the first item that fails. -/
theorem failure?_mapM (f : α → Except ε β) (as : List α) :
    failure? (as.mapM f) = as.findSome? fun a => failure? (f a) := by
  induction as with
  | nil => rfl
  | cons a rest ih =>
    have hrest : ∀ b, failure? (rest.mapM f >>= fun bs => pure (b :: bs)) =
        rest.findSome? fun a => failure? (f a) := by
      intro b
      rw [failure?_bind_pure, ih]
    rw [List.mapM_cons, failure?_bind fun b _ => hrest b, List.findSome?_cons]
    cases failure? (f a) <;> rfl

/-- The error of a list is that of its first item that fails. -/
theorem mapM_eq_error_iff {f : α → Except ε β} {as : List α} {e : ε} :
    as.mapM f = .error e ↔ ∃ before a after, as = before ++ a :: after ∧
      (∀ x ∈ before, ∃ b, f x = .ok b) ∧ f a = .error e := by
  rw [← failure?_eq_some, failure?_mapM, List.findSome?_eq_some_iff]
  simp only [failure?_eq_some, failure?_eq_none]
  constructor
  · rintro ⟨before, a, after, heq, ha, hbefore⟩
    exact ⟨before, a, after, heq, hbefore, ha⟩
  · rintro ⟨before, a, after, heq, hbefore, ha⟩
    exact ⟨before, a, after, heq, ha, hbefore⟩

theorem exists_of_mapM_eq_error {f : α → Except ε β} {as : List α} {e : ε}
    (h : as.mapM f = .error e) : ∃ a ∈ as, f a = .error e := by
  obtain ⟨before, a, after, rfl, -, ha⟩ := mapM_eq_error_iff.1 h
  exact ⟨a, List.mem_append_right _ List.mem_cons_self, ha⟩

/-! ### Computations that succeed alike -/

/-- Both computations succeed, with related values, or both fail. -/
inductive Agree (R : α → β → Prop) : Except ε α → Except δ β → Prop
  | ok {a : α} {b : β} (h : R a b) : Agree R (.ok a) (.ok b)
  | error (e : ε) (d : δ) : Agree R (.error e) (.error d)

namespace Agree

variable {γ γ' : Type} {R : α → β → Prop} {S : γ → γ' → Prop}

theorem refl {R : α → α → Prop} (hrefl : ∀ a, R a a) (x : Except ε α) : Agree R x x := by
  cases x with
  | error e => exact .error e e
  | ok a => exact .ok (hrefl a)

theorem trans {R : α → α → Prop} (htrans : ∀ a b c, R a b → R b c → R a c)
    {x y z : Except ε α} (hxy : Agree R x y) (hyz : Agree R y z) : Agree R x z := by
  cases hxy with
  | ok hab =>
    cases hyz with
    | ok hbc => exact .ok (htrans _ _ _ hab hbc)
  | error e d =>
    cases hyz with
    | error => exact .error _ _

theorem bind {x : Except ε α} {y : Except δ β} {f : α → Except ε γ} {g : β → Except δ γ'}
    (h : Agree R x y) (hf : ∀ a b, R a b → Agree S (f a) (g b)) : Agree S (x >>= f) (y >>= g) := by
  cases h with
  | ok hab => exact hf _ _ hab
  | error e d => exact .error e d

/-- Two computations that agree with two others may change places with each other. -/
theorem bind_swap {α' β' : Type} {R' : α' → β' → Prop} {x : Except ε α} {x' : Except ε α'}
    {y : Except δ β} {y' : Except δ β'} {f : α → α' → Except ε γ} {g : β' → β → Except δ γ'}
    (h : Agree R x y) (h' : Agree R' x' y')
    (hfg : ∀ a b a' b', R a b → R' a' b' → Agree S (f a a') (g b' b)) :
    Agree S (x >>= fun a => x' >>= f a) (y' >>= fun b' => y >>= g b') := by
  cases h with
  | ok hab =>
    cases h' with
    | ok hab' => exact hfg _ _ _ _ hab hab'
    | error e d => exact .error e d
  | error e d =>
    cases h' with
    | ok hab' => exact .error e d
    | error e' d' => exact .error e d'

end Agree

/-! ### Kinds of errors -/

/-- The value of a computation, or the kind of its error. -/
def upToKind (x : Except Error α) : Except Error.Kind α := x.mapError Error.kind

@[simp] theorem upToKind_ok (a : α) : upToKind (.ok a) = .ok a := rfl

@[simp] theorem upToKind_error (e : Error) :
    upToKind (.error e : Except Error α) = .error e.kind := rfl

theorem upToKind_bind (x : Except Error α) (f : α → Except Error β) :
    upToKind (x >>= f) = upToKind x >>= fun a => upToKind (f a) := by
  cases x <;> rfl

theorem upToKind_bind_congr {x y : Except Error α} {f g : α → Except Error β}
    (h : upToKind x = upToKind y) (hf : ∀ a, upToKind (f a) = upToKind (g a)) :
    upToKind (x >>= f) = upToKind (y >>= g) := by
  rw [upToKind_bind, upToKind_bind, h, funext hf]

theorem Traced.upToKind_bind_congr {x y : Traced α} {f g : α → Traced β}
    (h : upToKind x.result = upToKind y.result)
    (hf : ∀ a, upToKind (f a).result = upToKind (g a).result) :
    upToKind (x >>= f).result = upToKind (y >>= g).result := by
  rw [Traced.result_bind, Traced.result_bind]
  exact SearchQuery.upToKind_bind_congr h hf

/-- Computations that succeed alike, and otherwise fail with errors of one kind, are followed up
alike. -/
theorem Agree.upToKind_bind {γ δ' : Type} {R : γ → δ' → Prop} {x : Except ε γ} {y : Except δ δ'}
    {f : ε → Error} {g : δ → Error} {F : γ → Except Error α} {G : δ' → Except Error α}
    (h : Agree R x y) (hkind : ∀ e d, (f e).kind = (g d).kind)
    (hF : ∀ a b, R a b → upToKind (F a) = upToKind (G b)) :
    upToKind (x.mapError f >>= F) = upToKind (y.mapError g >>= G) := by
  cases h with
  | ok hab => exact hF _ _ hab
  | error e d => exact congrArg Except.error (hkind e d)

/-! ### Lists -/

/-- Lists of computations that succeed alike do so as a whole. -/
theorem Agree.mapM {α' β' : Type} {R : β → β' → Prop} {f : α → Except ε β} {g : α' → Except δ β'}
    {as : List α} {as' : List α'} (h : List.Forall₂ (fun a a' => Agree R (f a) (g a')) as as') :
    Agree (List.Forall₂ R) (as.mapM f) (as'.mapM g) := by
  induction h with
  | nil => exact .ok .nil
  | cons hfirst _ ih =>
    rw [List.mapM_cons, List.mapM_cons]
    refine hfirst.bind fun b b' hb => ?_
    exact ih.bind fun bs bs' hbs => .ok (.cons hb hbs)

theorem mapM_cons_eq_ok {f : α → Except ε β} {a : α} {as : List α} {bs : List β} :
    (a :: as).mapM f = .ok bs ↔ ∃ b bs', f a = .ok b ∧ as.mapM f = .ok bs' ∧ bs = b :: bs' := by
  simp only [List.mapM_cons, bind_eq_ok, pure_eq_ok]
  constructor
  · rintro ⟨b, hb, bs', hbs', rfl⟩
    exact ⟨b, bs', hb, hbs', rfl⟩
  · rintro ⟨b, bs', hb, hbs', rfl⟩
    exact ⟨b, hb, bs', hbs', rfl⟩

theorem mapM_append_eq_ok {f : α → Except ε β} {as as' : List α} {bs : List β} :
    (as ++ as').mapM f = .ok bs ↔
      ∃ cs cs', as.mapM f = .ok cs ∧ as'.mapM f = .ok cs' ∧ bs = cs ++ cs' := by
  simp only [List.mapM_append, bind_eq_ok, pure_eq_ok]
  constructor
  · rintro ⟨cs, hcs, cs', hcs', rfl⟩
    exact ⟨cs, cs', hcs, hcs', rfl⟩
  · rintro ⟨cs, cs', hcs, hcs', rfl⟩
    exact ⟨cs, hcs, cs', hcs', rfl⟩

theorem mapM_eq_ok_iff {f : α → Except ε β} {as : List α} {bs : List β} :
    as.mapM f = .ok bs ↔ List.Forall₂ (fun a b => f a = .ok b) as bs := by
  induction as generalizing bs with
  | nil => rw [List.mapM_nil, pure_eq_ok, List.forall₂_nil_left_iff, eq_comm]
  | cons a rest ih =>
    rw [mapM_cons_eq_ok, List.forall₂_cons_left_iff]
    simp only [ih]

theorem length_of_mapM_eq_ok {f : α → Except ε β} {as : List α} {bs : List β}
    (h : as.mapM f = .ok bs) : bs.length = as.length :=
  (mapM_eq_ok_iff.1 h).length_eq.symm

theorem mapM_congr {f g : α → Option β} {as : List α} (h : ∀ a ∈ as, f a = g a) :
    as.mapM f = as.mapM g := by
  induction as with
  | nil => rfl
  | cons a rest ih =>
    rw [List.forall_mem_cons] at h
    rw [List.mapM_cons, List.mapM_cons, h.1, ih h.2]

end SearchQuery
