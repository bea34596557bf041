import SearchQuery.Plan.Selection
import SearchQuery.Proofs.Expression.Folding
import SearchQuery.Proofs.Plan.Contribution

/-!
# Projections of folded selectors

Constants of a selector may be folded before planning or left to be computed for every hit.

* `readsConstant`: folding would make a member read on a constant, which has a rule of its own.
* `BindsAlike`: two expressions become projections with one reading, after the same fields.
* `bindsAlike_fold`: without such a member, an expression and what it folds to bind alike.
* `Projection.ofSelector_fold`: so folding a selector keeps the projection.
-/

namespace SearchQuery

namespace Expression

/-! ### Members of constants -/

/-- Whether nothing but a constant is left after folding. -/
def foldsToConstant (e : Expression) : Bool :=
  match e.fold with
  | .ok e' => e'.constant?.isSome
  | .error _ => false

mutual

/-- Whether a member is read on a target that folds to a constant. -/
def readsConstant : Expression → Bool
  | .member target _ => target.foldsToConstant || readsConstant target
  | .binary _ left right => readsConstant left || readsConstant right
  | .unary _ operand => readsConstant operand
  | .call _ args => argsReadConstant args
  | .lambda _ body => readsConstant body
  | .construct members => membersReadConstant members
  | .constant _ | .source _ | .parameter _ | .hitField _ => false

def argsReadConstant : List Expression → Bool
  | [] => false
  | e :: rest => readsConstant e || argsReadConstant rest

def membersReadConstant : List (String × Expression) → Bool
  | [] => false
  | (_, e) :: rest => readsConstant e || membersReadConstant rest

end

/-! ### Uses of the document -/

theorem argsUseDocument_constants (x : String) (values : List Json) :
    argsUseDocument x (values.map .constant) = false := by
  induction values with
  | nil => rfl
  | cons v rest ih => rw [List.map_cons, argsUseDocument, ih, usesDocument, Bool.or_false]

theorem membersUseDocument_constants (x : String) (entries : List (String × Json)) :
    membersUseDocument x (constantMembers entries) = false := by
  induction entries with
  | nil => rfl
  | cons entry rest ih =>
    rw [constantMembers, List.map_cons, membersUseDocument, usesDocument, Bool.false_or]
    exact ih

theorem argsUseDocument_congr {x : String} {args args' : List Expression}
    (h : List.Forall₂ (fun e e' => e'.usesDocument x = e.usesDocument x) args args') :
    argsUseDocument x args' = argsUseDocument x args := by
  induction h with
  | nil => rfl
  | cons he _ ih => rw [argsUseDocument, argsUseDocument, he, ih]

theorem membersUseDocument_congr {x : String} {members members' : List (String × Expression)}
    (h : List.Forall₂ (fun a b => a.1 = b.1 ∧ b.2.usesDocument x = a.2.usesDocument x)
      members members') : membersUseDocument x members' = membersUseDocument x members := by
  induction h with
  | nil => rfl
  | cons he _ ih => rw [membersUseDocument, membersUseDocument, he.2, ih]

theorem foldCases_usesDocument (x : String) :
    FoldCases fun e e' => e'.usesDocument x = e.usesDocument x where
  constant _ := rfl
  source _ := rfl
  parameter _ := rfl
  hitField _ := rfl
  field _ _ := rfl
  member {target target'} m hne hne' _ htarget := by
    rw [usesDocument_member hne, ← htarget]
    rcases foldMember_cases target' m with ⟨-, hfolded⟩ | ⟨v, rfl, hfolded⟩
    · rw [hfolded, usesDocument_member hne']
    · rw [hfolded, usesDocument, usesDocument]
  binary {op left left' right right' e} hleft hright h := by
    rw [usesDocument, ← hleft, ← hright]
    rcases foldBinary_cases h with rfl | ⟨l, r, v, rfl, rfl, -, rfl⟩
    · rw [usesDocument]
    · rfl
  unary {op operand operand' e} hoperand h := by
    rw [usesDocument, ← hoperand]
    rcases foldUnary_cases h with rfl | ⟨o, v, rfl, -, rfl⟩
    · rw [usesDocument]
    · rfl
  call {method args args' e} hargs h := by
    rw [usesDocument, ← argsUseDocument_congr hargs]
    rcases foldCall_cases h with rfl | ⟨values, v, rfl, -, rfl⟩
    · rw [usesDocument]
    · rw [usesDocument, argsUseDocument_constants]
  lambda hbody := by rw [usesDocument, usesDocument, hbody]
  construct {members members'} hmembers := by
    rw [usesDocument, ← membersUseDocument_congr hmembers]
    rcases foldConstruct_cases members' with hfolded | ⟨entries, rfl, hfolded⟩
    · rw [hfolded, usesDocument]
    · rw [hfolded, usesDocument, membersUseDocument_constants]

/-- Folding neither adds a use of the whole document nor drops one. -/
theorem usesDocument_fold {x : String} {e e' : Expression} (h : e.fold = .ok e') :
    e'.usesDocument x = e.usesDocument x :=
  (foldCases_usesDocument x).of_fold e h

/-! ### Expressions that bind alike -/

/-- The same fields come with projections that read the same from every row. -/
def SameReading {α β : Type} (read : Row → α → Except Error β) (a b : α × List String) : Prop :=
  b.2 = a.2 ∧ ∀ row, read row b.1 = read row a.1

theorem SameReading.refl {α β : Type} {read : Row → α → Except Error β} (a : α × List String) :
    SameReading read a a :=
  ⟨rfl, fun _ => rfl⟩

theorem SameReading.trans {α β : Type} {read : Row → α → Except Error β}
    (a b c : α × List String) (hab : SameReading read a b) (hbc : SameReading read b c) :
    SameReading read a c :=
  ⟨hbc.1.trans hab.1, fun row => (hbc.2 row).trans (hab.2 row)⟩

/-- What comes after two agreeing projections is asked for the same fields. -/
theorem SameReading.bind {α β γ δ : Type} {read : Row → α → Except Error β} {S : γ → δ → Prop}
    {x y : Except Error (α × List String)} {f : α × List String → Except Error γ}
    {g : α × List String → Except Error δ} (h : Agree (SameReading read) x y)
    (hf : ∀ a a' fields, (∀ row, read row a' = read row a) →
      Agree S (f (a, fields)) (g (a', fields))) : Agree S (x >>= f) (y >>= g) := by
  refine Agree.bind h ?_
  rintro ⟨a, fields⟩ ⟨a', fields'⟩ ⟨hfields, hread⟩
  obtain rfl : fields' = fields := hfields
  exact hf a a' fields' hread

/-- In every selection, both expressions become projections with one reading, or neither has one. -/
def BindsAlike (e e' : Expression) : Prop :=
  ∀ (s : Selection) (fields : List String),
    Agree (SameReading ProjectionNode.evaluate) (s.bind fields e) (s.bind fields e')

namespace BindsAlike

variable {left left' right right' operand operand' target target' : Expression}
  {args args' : List Expression} {members members' : List (String × Expression)}

theorem refl (e : Expression) : BindsAlike e e :=
  fun _ _ => Agree.refl SameReading.refl _

theorem trans {e e' e'' : Expression} (h : BindsAlike e e') (h' : BindsAlike e' e'') :
    BindsAlike e e'' :=
  fun s fields => (h s fields).trans SameReading.trans (h' s fields)

theorem binary {op : BinaryOperator} (hleft : BindsAlike left left')
    (hright : BindsAlike right right') :
    BindsAlike (.binary op left right) (.binary op left' right') := by
  intro s fields
  rw [Selection.bind, Selection.bind]
  refine SameReading.bind (hleft s fields) fun l l' fields hl => ?_
  refine SameReading.bind (hright s fields) fun r r' fields hr => ?_
  refine .ok ⟨rfl, fun row => ?_⟩
  rw [ProjectionNode.evaluate, ProjectionNode.evaluate, hl, hr]

theorem unary {op : UnaryOperator} (hoperand : BindsAlike operand operand') :
    BindsAlike (.unary op operand) (.unary op operand') := by
  intro s fields
  rw [Selection.bind, Selection.bind]
  refine SameReading.bind (hoperand s fields) fun node node' fields hnode => ?_
  refine .ok ⟨rfl, fun row => ?_⟩
  rw [ProjectionNode.evaluate, ProjectionNode.evaluate, hnode]

/-- Where the document is not read as a whole, a member has to be a field. -/
theorem member {m : Member} (htarget : BindsAlike target target')
    (hpath : ∀ (mapping : FieldMapping) (pathPrefix : String),
      (Expression.member target' m).memberPath? mapping pathPrefix =
        (Expression.member target m).memberPath? mapping pathPrefix) :
    BindsAlike (.member target m) (.member target' m) := by
  intro s fields
  rw [Selection.bind, Selection.bind]
  by_cases hwhole : s.wholeDocument = true
  · rw [if_pos hwhole, if_pos hwhole]
    refine SameReading.bind (htarget s fields) fun node node' fields hnode => ?_
    refine .ok ⟨rfl, fun row => ?_⟩
    rw [ProjectionNode.evaluate, ProjectionNode.evaluate, hnode]
  · rw [if_neg hwhole, if_neg hwhole, Selection.bindField, Selection.bindField, hpath]
    cases (Expression.member target m).memberPath? s.mapping s.pathPrefix with
    | none => exact .error _ _
    | some field => exact .ok (SameReading.refl _)

theorem bindArgs (hargs : List.Forall₂ BindsAlike args args') (s : Selection)
    (fields : List String) :
    Agree (SameReading ProjectionNode.evaluateArgs) (s.bindArgs fields args)
      (s.bindArgs fields args') := by
  induction hargs generalizing fields with
  | nil => exact .ok (SameReading.refl _)
  | cons he _ ih =>
    rw [Selection.bindArgs, Selection.bindArgs]
    refine SameReading.bind (he s fields) fun node node' fields hnode => ?_
    refine SameReading.bind (ih fields) fun nodes nodes' fields hnodes => ?_
    refine .ok ⟨rfl, fun row => ?_⟩
    rw [ProjectionNode.evaluateArgs, ProjectionNode.evaluateArgs, hnode, hnodes]

theorem bindMembers
    (hmembers : List.Forall₂ (fun a b => a.1 = b.1 ∧ BindsAlike a.2 b.2) members members')
    (s : Selection) (fields : List String) :
    Agree (SameReading ProjectionNode.evaluateMembers) (s.bindMembers fields members)
      (s.bindMembers fields members') := by
  induction hmembers generalizing fields with
  | nil => exact .ok (SameReading.refl _)
  | @cons a b _ _ he _ ih =>
    obtain ⟨name, e⟩ := a
    obtain ⟨name', e'⟩ := b
    obtain ⟨rfl, he⟩ := he
    rw [Selection.bindMembers, Selection.bindMembers]
    refine SameReading.bind (he s fields) fun node node' fields hnode => ?_
    refine SameReading.bind (ih fields) fun nodes nodes' fields hnodes => ?_
    refine .ok ⟨rfl, fun row => ?_⟩
    rw [ProjectionNode.evaluateMembers, ProjectionNode.evaluateMembers, hnode, hnodes]

theorem call {method : String} (hargs : List.Forall₂ BindsAlike args args') :
    BindsAlike (.call method args) (.call method args') := by
  intro s fields
  rw [Selection.bind, Selection.bind]
  refine SameReading.bind (bindArgs hargs s fields) fun nodes nodes' fields hnodes => ?_
  refine .ok ⟨rfl, fun row => ?_⟩
  rw [ProjectionNode.evaluate, ProjectionNode.evaluate, hnodes]

theorem construct
    (hmembers : List.Forall₂ (fun a b => a.1 = b.1 ∧ BindsAlike a.2 b.2) members members') :
    BindsAlike (.construct members) (.construct members') := by
  intro s fields
  rw [Selection.bind, Selection.bind]
  refine SameReading.bind (bindMembers hmembers s fields) fun nodes nodes' fields hnodes => ?_
  refine .ok ⟨rfl, fun row => ?_⟩
  rw [ProjectionNode.evaluate, ProjectionNode.evaluate, hnodes]

/-- No selection takes a lambda inside its own. -/
theorem lambda (name : String) (body body' : Expression) :
    BindsAlike (.lambda name body) (.lambda name body') :=
  fun _ _ => .error _ _

/-! ### Compounds of constants -/

theorem binary_constant {op : BinaryOperator} {l r v : Json} (h : op.apply l r = .ok v) :
    BindsAlike (.binary op (.constant l) (.constant r)) (.constant v) := by
  intro s fields
  refine .ok ⟨rfl, fun row => ?_⟩
  have hcomputed : ProjectionNode.ofFault (op.apply l r) = .ok v := by
    rw [h, ProjectionNode.ofFault]
  exact hcomputed.symm

theorem unary_constant {op : UnaryOperator} {o v : Json} (h : op.apply o = .ok v) :
    BindsAlike (.unary op (.constant o)) (.constant v) := by
  intro s fields
  refine .ok ⟨rfl, fun row => ?_⟩
  have hcomputed : ProjectionNode.ofFault (op.apply o) = .ok v := by
    rw [h, ProjectionNode.ofFault]
  exact hcomputed.symm

theorem bindArgs_constants (s : Selection) (fields : List String) (values : List Json) :
    s.bindArgs fields (values.map .constant) = .ok (values.map .constant, fields) := by
  induction values with
  | nil => rfl
  | cons v rest ih =>
    rw [List.map_cons, Selection.bindArgs, Selection.bind]
    simp only [ih, bind, Except.bind, pure, Except.pure, List.map_cons]

theorem evaluateArgs_constants (row : Row) (values : List Json) :
    ProjectionNode.evaluateArgs row (values.map .constant) = .ok values := by
  induction values with
  | nil => rfl
  | cons v rest ih =>
    rw [List.map_cons, ProjectionNode.evaluateArgs, ProjectionNode.evaluate, ih]
    rfl

theorem call_constants {method : String} {values : List Json} {v : Json}
    (h : applyMethod method values = .ok (some v)) :
    BindsAlike (.call method (values.map .constant)) (.constant v) := by
  intro s fields
  rw [Selection.bind, Selection.bind, bindArgs_constants]
  refine .ok ⟨rfl, fun row => ?_⟩
  have hvalues := evaluateArgs_constants row values
  rw [ProjectionNode.evaluate, ProjectionNode.evaluate, hvalues]
  have hcomputed : ProjectionNode.applyToResults method values = .ok v := by
    rw [ProjectionNode.applyToResults, h]
  exact hcomputed.symm

/-- The members of a projected object all of which are constants. -/
def constantNodes (entries : List (String × Json)) : List (String × ProjectionNode) :=
  entries.map fun entry => (entry.1, .constant entry.2)

theorem bindMembers_constants (s : Selection) (fields : List String)
    (entries : List (String × Json)) :
    s.bindMembers fields (constantMembers entries) = .ok (constantNodes entries, fields) := by
  induction entries with
  | nil => rfl
  | cons entry rest ih =>
    rw [constantMembers, List.map_cons, ← constantMembers, Selection.bindMembers, Selection.bind]
    simp only [ih, bind, Except.bind, pure, Except.pure]
    rfl

theorem evaluateMembers_constants (row : Row) (entries : List (String × Json)) :
    ProjectionNode.evaluateMembers row (constantNodes entries) = .ok entries := by
  induction entries with
  | nil => rfl
  | cons entry rest ih =>
    rw [constantNodes, List.map_cons, ← constantNodes, ProjectionNode.evaluateMembers,
      ProjectionNode.evaluate, ih]
    rfl

theorem construct_constants (entries : List (String × Json)) :
    BindsAlike (.construct (constantMembers entries))
      (.constant (.obj (Json.collectMembers entries))) := by
  intro s fields
  rw [Selection.bind, Selection.bind, bindMembers_constants]
  refine .ok ⟨rfl, fun row => ?_⟩
  have hentries := evaluateMembers_constants row entries
  rw [ProjectionNode.evaluate, ProjectionNode.evaluate, hentries]
  rfl

end BindsAlike

/-! ### Folding -/

theorem forall₂_bindsAlike_args {args args' : List Expression}
    (h : List.Forall₂ (fun e e' => e.readsConstant = false → BindsAlike e e') args args')
    (hreads : argsReadConstant args = false) : List.Forall₂ BindsAlike args args' := by
  induction h with
  | nil => exact .nil
  | cons he _ ih =>
    rw [argsReadConstant, Bool.or_eq_false_iff] at hreads
    exact .cons (he hreads.1) (ih hreads.2)

theorem forall₂_bindsAlike_members {members members' : List (String × Expression)}
    (h : List.Forall₂ (fun a b => a.1 = b.1 ∧ (a.2.readsConstant = false → BindsAlike a.2 b.2))
      members members') (hreads : membersReadConstant members = false) :
    List.Forall₂ (fun a b => a.1 = b.1 ∧ BindsAlike a.2 b.2) members members' := by
  induction h with
  | nil => exact .nil
  | cons he _ ih =>
    rw [membersReadConstant, Bool.or_eq_false_iff] at hreads
    exact .cons ⟨he.1, he.2 hreads.1⟩ (ih hreads.2)

/-- A compound binds like the compound of its folded parts, and that one like its own value. -/
theorem foldCases_bindsAlike :
    FoldCases fun e e' => e.readsConstant = false → BindsAlike e e' where
  constant _ _ := .refl _
  source _ _ := .refl _
  parameter _ _ := .refl _
  hitField _ _ := .refl _
  field _ _ _ := .refl _
  member {target target'} m _ _ hfold htarget hreads := by
    rw [readsConstant, Bool.or_eq_false_iff, foldsToConstant, hfold] at hreads
    obtain ⟨hconstant, hreads⟩ := hreads
    have hnone : target'.constant? = none :=
      Option.isNone_iff_eq_none.1 (Option.isSome_eq_false_iff.1 hconstant)
    have hmember : (Expression.member target m).fold = .ok (.member target' m) := by
      rw [fold, hfold]
      exact congrArg Except.ok (foldMember_eq_self hnone)
    rw [foldMember_eq_self hnone]
    exact (htarget hreads).member fun _ _ => memberPath?_fold hmember
  binary {op left left' right right' e} hleft hright h hreads := by
    rw [readsConstant, Bool.or_eq_false_iff] at hreads
    have hparts : BindsAlike (.binary op left right) (.binary op left' right') :=
      (hleft hreads.1).binary (hright hreads.2)
    rcases foldBinary_cases h with rfl | ⟨l, r, v, rfl, rfl, happly, rfl⟩
    · exact hparts
    · exact hparts.trans (.binary_constant happly)
  unary {op operand operand' e} hoperand h hreads := by
    rw [readsConstant] at hreads
    have hparts : BindsAlike (.unary op operand) (.unary op operand') := (hoperand hreads).unary
    rcases foldUnary_cases h with rfl | ⟨o, v, rfl, happly, rfl⟩
    · exact hparts
    · exact hparts.trans (.unary_constant happly)
  call {method args args' e} hargs h hreads := by
    rw [readsConstant] at hreads
    have hparts : BindsAlike (.call method args) (.call method args') :=
      .call (forall₂_bindsAlike_args hargs hreads)
    rcases foldCall_cases h with rfl | ⟨values, v, rfl, happly, rfl⟩
    · exact hparts
    · exact hparts.trans (.call_constants happly)
  lambda _ _ := .lambda _ _ _
  construct {members members'} hmembers hreads := by
    rw [readsConstant] at hreads
    have hparts : BindsAlike (.construct members) (.construct members') :=
      .construct (forall₂_bindsAlike_members hmembers hreads)
    rcases foldConstruct_cases members' with hfolded | ⟨entries, rfl, hfolded⟩
    · rw [hfolded]
      exact hparts
    · rw [hfolded]
      exact hparts.trans (.construct_constants entries)

/-- An expression that reads no member of a constant binds like what it folds to. -/
theorem bindsAlike_fold {e e' : Expression} (hreads : e.readsConstant = false)
    (h : e.fold = .ok e') : BindsAlike e e' :=
  foldCases_bindsAlike.of_fold e h hreads

end Expression

/-! ### Selectors -/

namespace Projection

/-- The same fields are asked for, and every hit gives the same value or the same error. -/
def Same (p q : Projection) : Prop :=
  q.fields = p.fields ∧ ∀ hit, q.projector.project hit = p.projector.project hit

/-- **Folding constants keeps projections.** If the body of a selector reads no member of what
folds to a constant, then the selector and what it folds to both have a projection or both have
none; the fields are the same, and so is the outcome on every hit. -/
theorem ofSelector_fold {m : FieldMapping} {pathPrefix : String} {documentPrefix : Option String}
    {x : String} {body folded : Expression} (hreads : body.readsConstant = false)
    (hfold : (Expression.lambda x body).fold = .ok folded) :
    Agree Same (ofSelector m pathPrefix documentPrefix (.lambda x body))
      (ofSelector m pathPrefix documentPrefix folded) := by
  rw [Expression.fold] at hfold
  obtain ⟨body', hbody, h⟩ := bind_eq_ok.1 hfold
  cases h
  have halike : body.BindsAlike body' := Expression.bindsAlike_fold hreads hbody
  have huses : body'.usesDocument x = body.usesDocument x := Expression.usesDocument_fold hbody
  have hselection : Selection.ofLambda m pathPrefix documentPrefix x body' =
      Selection.ofLambda m pathPrefix documentPrefix x body := by
    rw [Selection.ofLambda, huses, Selection.ofLambda]
  simp only [ofSelector, Expression.lambda?, hselection]
  refine Expression.SameReading.bind (halike _ []) fun node node' fields hnode => ?_
  exact .ok ⟨rfl, fun hit => hnode (.hit hit)⟩

end Projection

namespace Film

/-- The genre, which is the same for every film, and the decade that the film is of. -/
def genreAndDecade : Expression :=
  .construct
    [("Genre", .call "concat" [.constant (.str "cri"), .constant (.str "me")]),
      ("Decade", ((Expression.parameter "f").member year).divide
        ((Expression.constant (.int 5)).multiply (.constant (.int 2))))]

def foldedGenreAndDecade : Expression :=
  .construct
    [("Genre", .constant (.str "crime")),
      ("Decade", ((Expression.parameter "f").member year).divide (.constant (.int 10)))]

end Film

theorem Projection.ofSelector_fold_film :
    Film.genreAndDecade.readsConstant = false ∧
      (Expression.lambda "f" Film.genreAndDecade).fold =
        .ok (.lambda "f" Film.foldedGenreAndDecade) ∧
      Agree Projection.Same
        (Projection.ofSelector Film.mapping "" none (.lambda "f" Film.genreAndDecade))
        (Projection.ofSelector Film.mapping "" none (.lambda "f" Film.foldedGenreAndDecade)) := by
  have hreads : Film.genreAndDecade.readsConstant = false := by decide
  have hfold : (Expression.lambda "f" Film.genreAndDecade).fold =
      .ok (.lambda "f" Film.foldedGenreAndDecade) := by rfl
  exact ⟨hreads, hfold, Projection.ofSelector_fold hreads hfold⟩

end SearchQuery
