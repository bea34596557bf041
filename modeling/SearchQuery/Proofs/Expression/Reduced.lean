import SearchQuery.Expression.Builder
import SearchQuery.Proofs.Expression.Folding
import SearchQuery.Proofs.Expression.Subexpressions

/-!
# Reduced expressions

What folding leaves.

* `Redex`: a compound of constants that folding evaluates, or fails on.
* `foldMember_eq_self_iff` to `foldConstruct_eq_self_iff`: a compound of folded parts stays as it is
  exactly where it is no redex.
* `Reduced`: no redex at any depth. These are the expressions that folding leaves alone
  (`fold_eq_self_iff`), and folding always comes to one (`foldCases_reduced`).
* `foldCases_bindings`: what ties an expression to documents is kept, in its order.
-/

namespace SearchQuery

namespace Expression

variable {e e' target left right operand : Expression} {args : List Expression}
  {members : List (String × Expression)}

/-! ### Related lists -/

section Related

variable {α β γ : Type} {as : List α} {bs : List β}

theorem forall_mem_of_forall₂ {P : β → Prop} (h : List.Forall₂ (fun _ b => P b) as bs) :
    ∀ b ∈ bs, P b := by
  induction h with
  | nil => simp
  | cons hhead _ ih => exact List.forall_mem_cons.2 ⟨hhead, ih⟩

theorem flatMap_congr_of_forall₂ {f : α → List γ} {g : β → List γ}
    (h : List.Forall₂ (fun a b => g b = f a) as bs) : bs.flatMap g = as.flatMap f := by
  induction h with
  | nil => rfl
  | cons hhead _ ih => rw [List.flatMap_cons, List.flatMap_cons, hhead, ih]

end Related

/-! ### Redexes -/

/-- A compound whose parts are constants. A call is one where its method has a value on them, or a
fault. -/
inductive Redex : Expression → Prop
  | member (v : Json) (m : Member) : Redex (.member (.constant v) m)
  | binary (op : BinaryOperator) (l r : Json) : Redex (.binary op (.constant l) (.constant r))
  | unary (op : UnaryOperator) (v : Json) : Redex (.unary op (.constant v))
  | call {method : String} {values : List Json} (h : applyMethod method values ≠ .ok none) :
    Redex (.call method (values.map .constant))
  | construct (entries : List (String × Json)) : Redex (.construct (constantMembers entries))

theorem foldMember_eq_self_iff {m : Member} :
    foldMember target m = .member target m ↔ ¬(member target m).Redex := by
  constructor
  · intro h hredex
    cases hredex
    cases h
  · intro hredex
    rcases foldMember_cases target m with ⟨-, hself⟩ | ⟨v, rfl, -⟩
    · exact hself
    · exact absurd (.member v m) hredex

theorem foldBinary_eq_self_iff {op : BinaryOperator} :
    foldBinary op left right = .ok (.binary op left right) ↔ ¬(binary op left right).Redex := by
  constructor
  · intro h hredex
    cases hredex
    obtain ⟨v, -, hv⟩ := map_eq_ok.1 h
    cases hv
  · intro hredex
    unfold foldBinary
    split
    · exact absurd (.binary op _ _) hredex
    · rfl

theorem foldUnary_eq_self_iff {op : UnaryOperator} :
    foldUnary op operand = .ok (.unary op operand) ↔ ¬(unary op operand).Redex := by
  constructor
  · intro h hredex
    cases hredex
    obtain ⟨v, -, hv⟩ := map_eq_ok.1 h
    cases hv
  · intro hredex
    unfold foldUnary
    split
    · exact absurd (.unary op _) hredex
    · rfl

theorem foldCall_eq_self_iff {method : String} :
    foldCall method args = .ok (.call method args) ↔ ¬(call method args).Redex := by
  constructor
  · intro h hredex
    cases hredex with
    | call happly =>
      rw [foldCall, mapM_constant?_eq_some.2 rfl] at h
      obtain ⟨outcome, houtcome, h⟩ := bind_eq_ok.1 h
      cases outcome with
      | none => exact happly houtcome
      | some v => cases h
  · intro hredex
    unfold foldCall
    split
    · rename_i values hvalues
      obtain rfl := mapM_constant?_eq_some.1 hvalues
      have happly : applyMethod method values = .ok none := by
        by_contra hne
        exact hredex (.call hne)
      rw [happly]
      rfl
    · rfl

theorem foldConstruct_eq_self_iff :
    foldConstruct members = .construct members ↔ ¬(construct members).Redex := by
  constructor
  · intro h hredex
    cases hredex with
    | construct entries =>
      rw [foldConstruct, mapM_constantMember_eq_some.2 rfl] at h
      cases h
  · intro hredex
    rcases foldConstruct_cases members with hself | ⟨entries, rfl, -⟩
    · exact hself
    · exact absurd (.construct entries) hredex

/-! ### Reduced expressions -/

/-- No redex at any depth. -/
def Reduced (e : Expression) : Prop := ∀ d ∈ e.subexpressions, ¬d.Redex

theorem reduced_of_leaf (hleaf : e.subexpressions = [e]) (h : ¬e.Redex) : e.Reduced := by
  rw [Reduced, hleaf]
  exact List.forall_mem_singleton.2 h

theorem reduced_constant (v : Json) : (constant v).Reduced := reduced_of_leaf rfl nofun

theorem reduced_member {m : Member} :
    (member target m).Reduced ↔ ¬(member target m).Redex ∧ target.Reduced := by
  simp only [Reduced, subexpressions, List.forall_mem_cons]

theorem reduced_binary {op : BinaryOperator} :
    (binary op left right).Reduced ↔
      ¬(binary op left right).Redex ∧ left.Reduced ∧ right.Reduced := by
  simp only [Reduced, subexpressions, List.forall_mem_cons, List.forall_mem_append]

theorem reduced_unary {op : UnaryOperator} :
    (unary op operand).Reduced ↔ ¬(unary op operand).Redex ∧ operand.Reduced := by
  simp only [Reduced, subexpressions, List.forall_mem_cons]

theorem reduced_call {method : String} :
    (call method args).Reduced ↔ ¬(call method args).Redex ∧ ∀ arg ∈ args, arg.Reduced := by
  simp only [Reduced, subexpressions, argsSubexpressions_eq, List.forall_mem_cons,
    List.forall_mem_flatMap]

theorem reduced_lambda {p : String} {body : Expression} :
    (lambda p body).Reduced ↔ body.Reduced := by
  have hredex : ¬(lambda p body).Redex := nofun
  simp only [Reduced, subexpressions, List.forall_mem_cons, hredex, not_false_eq_true, true_and]

theorem reduced_construct :
    (construct members).Reduced ↔
      ¬(construct members).Redex ∧ ∀ entry ∈ members, entry.2.Reduced := by
  simp only [Reduced, subexpressions, membersSubexpressions_eq, List.forall_mem_cons,
    List.forall_mem_flatMap]

/-- Folding comes to a reduced expression: compounds that are left have parts that are reduced, and
are no redexes themselves. -/
theorem foldCases_reduced : FoldCases fun _ e' => e'.Reduced where
  constant v := reduced_constant v
  source type := reduced_of_leaf rfl nofun
  parameter name := reduced_of_leaf rfl nofun
  hitField field := reduced_of_leaf rfl nofun
  field name m := reduced_member.2 ⟨nofun, reduced_of_leaf rfl nofun⟩
  member {_ target'} m _ _ _ htarget := by
    rcases foldMember_cases target' m with ⟨-, hself⟩ | ⟨v, -, hconstant⟩
    · rw [hself]
      exact reduced_member.2 ⟨foldMember_eq_self_iff.1 hself, htarget⟩
    · rw [hconstant]
      exact reduced_constant _
  binary hleft hright h := by
    rcases foldBinary_cases h with rfl | ⟨l, r, v, -, -, -, rfl⟩
    · exact reduced_binary.2 ⟨foldBinary_eq_self_iff.1 h, hleft, hright⟩
    · exact reduced_constant v
  unary hoperand h := by
    rcases foldUnary_cases h with rfl | ⟨o, v, -, -, rfl⟩
    · exact reduced_unary.2 ⟨foldUnary_eq_self_iff.1 h, hoperand⟩
    · exact reduced_constant v
  call hargs h := by
    rcases foldCall_cases h with rfl | ⟨values, v, -, -, rfl⟩
    · exact reduced_call.2 ⟨foldCall_eq_self_iff.1 h, forall_mem_of_forall₂ hargs⟩
    · exact reduced_constant v
  lambda hbody := reduced_lambda.2 hbody
  construct {_ members'} hmembers := by
    rcases foldConstruct_cases members' with hself | ⟨entries, -, hconstant⟩
    · rw [hself]
      have hreduced : ∀ entry ∈ members', entry.2.Reduced :=
        forall_mem_of_forall₂ (hmembers.imp fun _ _ h => h.2)
      exact reduced_construct.2 ⟨foldConstruct_eq_self_iff.1 hself, hreduced⟩
    · rw [hconstant]
      exact reduced_constant _

mutual

/-- Folding leaves reduced expressions alone. -/
theorem fold_of_reduced : (e : Expression) → e.Reduced → e.fold = .ok e
  | .constant _, _ | .source _, _ | .parameter _, _ | .hitField _, _ => rfl
  | .member target m, h => by
    obtain ⟨hredex, htarget⟩ := reduced_member.1 h
    rw [fold, fold_of_reduced target htarget]
    exact congrArg Except.ok (foldMember_eq_self_iff.2 hredex)
  | .binary op left right, h => by
    obtain ⟨hredex, hleft, hright⟩ := reduced_binary.1 h
    rw [fold, fold_of_reduced left hleft, fold_of_reduced right hright]
    exact foldBinary_eq_self_iff.2 hredex
  | .unary op operand, h => by
    obtain ⟨hredex, hoperand⟩ := reduced_unary.1 h
    rw [fold, fold_of_reduced operand hoperand]
    exact foldUnary_eq_self_iff.2 hredex
  | .call method args, h => by
    obtain ⟨hredex, hargs⟩ := reduced_call.1 h
    rw [fold, foldArgs_of_reduced args hargs]
    exact foldCall_eq_self_iff.2 hredex
  | .lambda p body, h => by
    rw [fold, fold_of_reduced body (reduced_lambda.1 h)]
    rfl
  | .construct members, h => by
    obtain ⟨hredex, hmembers⟩ := reduced_construct.1 h
    rw [fold, foldMembers_of_reduced members hmembers]
    exact congrArg Except.ok (foldConstruct_eq_self_iff.2 hredex)

theorem foldArgs_of_reduced : (args : List Expression) → (∀ arg ∈ args, arg.Reduced) →
    foldArgs args = .ok args
  | [], _ => rfl
  | e :: rest, h => by
    rw [List.forall_mem_cons] at h
    rw [foldArgs, fold_of_reduced e h.1, foldArgs_of_reduced rest h.2]
    rfl

theorem foldMembers_of_reduced : (members : List (String × Expression)) →
    (∀ entry ∈ members, entry.2.Reduced) → foldMembers members = .ok members
  | [], _ => rfl
  | (name, e) :: rest, h => by
    rw [List.forall_mem_cons] at h
    rw [foldMembers, fold_of_reduced e h.1, foldMembers_of_reduced rest h.2]
    rfl

end

/-- The expressions that folding leaves alone are the reduced ones. -/
theorem fold_eq_self_iff : e.fold = .ok e ↔ e.Reduced :=
  ⟨foldCases_reduced.of_fold e, fold_of_reduced e⟩

/-! ### Kept bindings -/

/-- What folds to a constant has no bindings, so none is lost with it. -/
theorem foldCases_bindings : FoldCases fun e e' => e'.bindings = e.bindings where
  constant _ := rfl
  source _ := rfl
  parameter _ := rfl
  hitField _ := rfl
  field _ _ := rfl
  member {_ target'} m _ _ _ htarget := by
    rw [bindings_member, ← htarget]
    rcases foldMember_cases target' m with ⟨-, hself⟩ | ⟨v, rfl, hconstant⟩
    · rw [hself, bindings_member]
    · rw [hconstant, bindings_constant, bindings_constant]
  binary hleft hright h := by
    rw [bindings_binary, ← hleft, ← hright]
    rcases foldBinary_cases h with rfl | ⟨l, r, v, rfl, rfl, -, rfl⟩
    · rw [bindings_binary]
    · rfl
  unary hoperand h := by
    rw [bindings_unary, ← hoperand]
    rcases foldUnary_cases h with rfl | ⟨o, v, rfl, -, rfl⟩
    · rw [bindings_unary]
    · rfl
  call hargs h := by
    rw [bindings_call, ← flatMap_congr_of_forall₂ hargs]
    rcases foldCall_cases h with rfl | ⟨values, v, rfl, -, rfl⟩
    · rw [bindings_call]
    · simp
  lambda hbody := by rw [bindings_lambda, bindings_lambda, hbody]
  construct {members members'} hmembers := by
    have hbindings : members'.flatMap (fun entry => entry.2.bindings) =
        members.flatMap fun entry => entry.2.bindings :=
      flatMap_congr_of_forall₂ (hmembers.imp fun _ _ h => h.2)
    rw [bindings_construct, ← hbindings]
    rcases foldConstruct_cases members' with hself | ⟨entries, rfl, hconstant⟩
    · rw [hself, bindings_construct]
    · rw [hconstant, bindings_constant, constantMembers, List.flatMap_map]
      simp

/-! ### Folding -/

/-- **Folding is complete and keeps the bindings.** Folding again changes nothing, all that ties the
expression to documents is still there in its order, and no compound of constants is left but calls
of methods that have no value on them. -/
theorem fold_reduces (h : e.fold = .ok e') :
    e'.fold = .ok e' ∧ e'.bindings = e.bindings ∧ ∀ d ∈ e'.subexpressions, ¬d.Redex := by
  have hreduced : e'.Reduced := foldCases_reduced.of_fold e h
  exact ⟨fold_eq_self_iff.2 hreduced, foldCases_bindings.of_fold e h, hreduced⟩

end Expression

/-! ### A selection of films -/

namespace Film

/-- The films with a word in the title that were made after a year, both given as constants that can
be folded, with a note. -/
def foldable : Expression :=
  ((Expression.source ⟨"Film", []⟩).filterBy (.lambda "f"
    ((((Expression.parameter "f").member ⟨"Title", .string⟩).contains
        (.call "to_lower" [.constant (.str "CRIME")])).andAlso
      (((Expression.parameter "f").member ⟨"Year", .integer⟩).greaterThan
        (.binary .add (.constant (.int 1960)) (.constant (.int 10))))))).select
      (.lambda "f" (.construct [("id", .hitField .id),
        ("note", .member (.construct [("text", .constant (.str "old"))]) ⟨"Text", .string⟩)]))

def folded : Expression :=
  ((Expression.source ⟨"Film", []⟩).filterBy (.lambda "f"
    ((((Expression.parameter "f").member ⟨"Title", .string⟩).contains
        (.constant (.str "crime"))).andAlso
      (((Expression.parameter "f").member ⟨"Year", .integer⟩).greaterThan
        (.constant (.int 1970)))))).select
      (.lambda "f" (.construct [("id", .hitField .id), ("note", .constant (.str "old"))]))

end Film

namespace Expression

theorem fold_reduces_film :
    Film.foldable.fold = .ok Film.folded ∧ Film.folded.fold = .ok Film.folded ∧
      Film.folded.bindings = Film.foldable.bindings ∧
      ∀ d ∈ Film.folded.subexpressions, ¬d.Redex := by
  have hfold : Film.foldable.fold = .ok Film.folded := by
    rfl
  exact ⟨hfold, fold_reduces hfold⟩

end Expression

end SearchQuery
