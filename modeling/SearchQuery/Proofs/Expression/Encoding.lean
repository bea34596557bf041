import SearchQuery.Expression.Encoding

/-!
# Reading back the JSON form of expressions

What is written as JSON is read back as it was, part by part: operators and metadata by their names,
types, members and document types, and then expressions with their arguments and members.

* `ofJson?_toJson`: an expression is read back from the form it is written in.
* `toJson_injective`: so different expressions have different forms.
* `ofJson?_roundTrip`: and writing what was read, from whatever form, changes nothing.
-/

namespace SearchQuery

/-! ### Names -/

@[simp] theorem BinaryOperator.ofName?_name (op : BinaryOperator) : ofName? op.name = some op := by
  cases op <;> rfl

@[simp] theorem UnaryOperator.ofName?_name (op : UnaryOperator) : ofName? op.name = some op := by
  cases op <;> rfl

@[simp] theorem HitField.ofName?_name (field : HitField) : ofName? field.name = some field := by
  cases field <;> rfl

@[simp] theorem Json.tag?_str (tag : String) : (Json.str tag).tag? = some tag := rfl

@[simp] theorem Json.text?_str (s : String) : (Json.str s).text? = some s := rfl

/-! ### Documents -/

@[simp] theorem ValueType.ofJson?_toJson (type : ValueType) : ofJson? type.toJson = some type := by
  induction type with
  | object name => rfl
  | sequence item ih =>
    rw [toJson, ofJson?, ih]
    rfl
  | optional value ih =>
    rw [toJson, ofJson?, ih]
    rfl
  | _ => rfl

@[simp] theorem Member.ofJson?_toJson (m : Member) : ofJson? m.toJson = some m := by
  simp [toJson, ofJson?, Json.member?, List.lookup_cons]

theorem Member.mapM_ofJson? (members : List Member) :
    (members.map toJson).mapM ofJson? = some members := by
  induction members with
  | nil => rfl
  | cons m rest ih =>
    rw [List.map_cons, List.mapM_cons, ofJson?_toJson, ih]
    rfl

@[simp] theorem DocumentType.ofJson?_toJson (type : DocumentType) :
    ofJson? type.toJson = some type := by
  have hmembers := Member.mapM_ofJson? type.members
  simp [toJson, ofJson?, Json.member?, Json.items?, List.lookup_cons, hmembers]

/-! ### Expressions -/

namespace Expression

mutual

/-- **The encoding loses nothing.** An expression is read back from its JSON form. -/
theorem ofJson?_toJson : (e : Expression) → ofJson? e.toJson = some e
  | .constant v => by
    rw [toJson]
    cases v <;> rfl
  | .source type => by
    have htype := DocumentType.ofJson?_toJson type
    rw [toJson, DocumentType.toJson, ofJson?, ← DocumentType.toJson, htype]
    rfl
  | .parameter name => rfl
  | .hitField field => by
    simp [toJson, ofJson?]
  | .member target m => by
    have htarget := ofJson?_toJson target
    simp [toJson, ofJson?, fieldOfJson?, List.lookup_cons, htarget]
  | .binary op left right => by
    have hleft := ofJson?_toJson left
    have hright := ofJson?_toJson right
    simp [toJson, ofJson?, fieldOfJson?, hleft, hright]
  | .unary op operand => by
    have hoperand := ofJson?_toJson operand
    simp [toJson, ofJson?, fieldOfJson?, hoperand]
  | .call method args => by
    have hargs := argsOfJson?_argsToJson args
    simp [toJson, ofJson?, argsFieldOfJson?, textField?, hargs]
  | .lambda p body => by
    have hbody := ofJson?_toJson body
    simp [toJson, ofJson?, fieldOfJson?, textField?, hbody]
  | .construct members => by
    have hmembers := membersOfJson?_membersToJson members
    simp [toJson, ofJson?, membersFieldOfJson?, hmembers]

theorem argsOfJson?_argsToJson : (args : List Expression) →
    argsOfJson? (argsToJson args) = some args
  | [] => rfl
  | e :: rest => by
    rw [argsToJson, argsOfJson?, ofJson?_toJson e, argsOfJson?_argsToJson rest]
    rfl

theorem membersOfJson?_membersToJson : (members : List (String × Expression)) →
    membersOfJson? (membersToJson members) = some members
  | [] => rfl
  | (name, e) :: rest => by
    rw [membersToJson, membersOfJson?, ofJson?_toJson e, membersOfJson?_membersToJson rest]
    rfl

end

theorem toJson_injective : Function.Injective toJson := by
  intro e e' h
  have hread : some e = some e' := by rw [← ofJson?_toJson e, h, ofJson?_toJson e']
  exact Option.some.inj hread

/-- **Reading and writing.** Every expression is read back from its JSON form, and what is read from
any JSON value, if it is an expression at all, is read again from the form it is then written in. -/
theorem ofJson?_roundTrip :
    (∀ e : Expression, ofJson? e.toJson = some e) ∧
      ∀ v : Json, ((ofJson? v).map toJson).bind ofJson? = ofJson? v := by
  refine ⟨ofJson?_toJson, fun v => ?_⟩
  cases ofJson? v with
  | none => rfl
  | some e => exact ofJson?_toJson e

end Expression

end SearchQuery
