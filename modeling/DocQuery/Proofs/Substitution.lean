import DocQuery.Plan.Write
import DocQuery.Proofs.Agreement
import DocQuery.Proofs.FilterRules
import DocQuery.Proofs.SelectionItems

/-! # Substitution in expressions

A substitution replaces the leaves of an expression: fields, the whole record, literals,
parameters and ranges of parameters.  What it puts there may depend on the place in which the
leaf stands, since planning reads one and the same leaf differently as a name, as a value or as
a condition.

If two scopes read each leaf and what is put for it alike (`Scope.Follows`), then every stage
of planning ends alike on an expression and on the expression with its leaves replaced.  The
argument does not know what is replaced, so it serves names and parameters both. -/
namespace DocQuery

/-- The places in which an expression can stand. -/
inductive Place where
  /-- A condition on its own: a clause of a filter, or what a negation negates. -/
  | condition
  /-- The name of a field. -/
  | name
  | value
  /-- What a field is a member of; here a range of parameters is allowed. -/
  | members
  /-- An item of a selection. -/
  | selected

/-- The place right of a comparison. -/
def CompareOp.place : CompareOp → Place
  | .isIn => .members
  | .eq | .ne | .gt | .gte | .lt | .lte => .value

/-- What is put for a leaf in a place. -/
abbrev Substitution := Place → Expr → Expr

/-! ### Replacing leaves -/

namespace Expr

/-- Whether an expression has no parts. -/
def isLeaf : Expr → Bool
  | .field _ | .source | .literal _ | .param _ | .paramRange .. => true
  | .tagged .. | .and _ | .or _ | .compare .. | .isNil _ | .not _ => false

mutual
/-- The expression in a place, with its leaves replaced. -/
def substitute (σ : Substitution) : Expr → Place → Expr
  | .tagged value cast, _ => .tagged (value.substitute σ .value) cast
  | .and operands, _ => .and (substituteAll σ operands)
  | .or operands, _ => .or (substituteAll σ operands)
  | .compare op left right, _ =>
      .compare op (left.substitute σ .name) (right.substitute σ op.place)
  | .isNil operand, _ => .isNil (operand.substitute σ .name)
  | .not operand, _ => .not (operand.substitute σ .condition)
  | leaf, place => σ place leaf

/-- The operands of a connective, which stand in the place of values. -/
def substituteAll (σ : Substitution) : List Expr → List Expr
  | [] => []
  | e :: es => e.substitute σ .value :: substituteAll σ es
end

theorem substituteAll_eq_map (σ : Substitution) (es : List Expr) :
    substituteAll σ es = es.map (·.substitute σ .value) := by
  induction es with
  | nil => rfl
  | cons e es ih => rw [substituteAll, ih, List.map_cons]

/-- Only leaves depend on the place. -/
theorem substitute_operator {σ : Substitution} {e : Expr} (h : e.isOperator = true)
    (place place' : Place) : e.substitute σ place = e.substitute σ place' := by
  cases e with
  | and _ | or _ | compare _ _ _ | isNil _ | not _ => rfl
  | _ => cases h

/-- A condition that is no operator is negated by wrapping. -/
theorem negated_of_not_operator {e : Expr} (h : e.isOperator = false) (p : String × Value) :
    e.negated p = ("$not", .document (.single p.1 p.2)) := by
  cases e with
  | and _ | or _ | compare _ _ _ | isNil _ | not _ => cases h
  | _ => rfl

/-- How a comparison is negated depends on what it compares by, and not on what it compares. -/
theorem negated_compare (op : CompareOp) (left left' right right' : Expr) (p : String × Value) :
    (Expr.compare op left right).negated p = (Expr.compare op left' right').negated p := by
  cases op with
  | isIn => rcases p with ⟨key, _ | _ | _ | (_ | ⟨_, _ | _⟩)⟩ <;> rfl
  | _ => rfl

end Expr

/-! ### Leaves that are read alike -/

/-- The first scope reads the leaf as the second one reads what is put for it, in every place
that the leaf can stand in. -/
structure Scope.ReadsAlike (s s' : Scope) (σ : Substitution) (leaf : Expr) : Prop where
  condition : ∀ clause, Alike Refusal.SameCause (s.condition clause leaf)
    (s'.condition clause (σ .condition leaf))
  name : ∀ clause, Alike Refusal.SameCause (s.field clause leaf)
    (s'.field clause (σ .name leaf))
  value : Alike ValueError.SameCause (leaf.eval s.params) ((σ .value leaf).eval s'.params)
  members : ∀ clause, Alike Refusal.SameCause (s.members clause leaf)
    (s'.members clause (σ .members leaf))
  selected : ∀ source, Alike Refusal.SameCause (s.output source leaf)
    (s'.output source (σ .selected leaf))
  isOperator : ∀ place, (σ place leaf).isOperator = false

/-- All leaves of the expression are read alike. -/
def Scope.Follows (s s' : Scope) (σ : Substitution) (e : Expr) : Prop :=
  e.Everywhere fun x => x.isLeaf = true → s.ReadsAlike s' σ x

namespace Scope
variable {s s' : Scope} {σ : Substitution} {clause : Clause}

theorem Follows.leaf {e : Expr} (h : s.Follows s' σ e) (hleaf : e.isLeaf = true) :
    s.ReadsAlike s' σ e :=
  h e e.self_mem_nodes hleaf

/-! ### Names and values -/

theorem field_substitute {e : Expr} (h : s.Follows s' σ e) :
    Alike Refusal.SameCause (s.field clause e) (s'.field clause (e.substitute σ .name)) := by
  cases e with
  | tagged _ _ | and _ | or _ | compare _ _ _ | isNil _ | not _ => exact alike_invalid clause _ _
  | _ => exact (h.leaf rfl).name clause

theorem eval_substitute {e : Expr} (h : s.Follows s' σ e) :
    Alike ValueError.SameCause (e.eval s.params) ((e.substitute σ .value).eval s'.params) := by
  induction e with
  | tagged value cast ih =>
    refine (ih (Expr.everywhere_tagged.mp h).2).bind fun v => ?_
    cases cast.value? v with
    | none => exact alike_refused_value _
    | some w => exact .ok w
  | and _ _ | or _ _ | compare _ _ _ _ _ | isNil _ _ | not _ _ => exact alike_refused_value _
  | _ => exact (h.leaf rfl).value

theorem value_substitute {e : Expr} (h : s.Follows s' σ e) :
    Alike Refusal.SameCause (s.value clause e) (s'.value clause (e.substitute σ .value)) :=
  (eval_substitute h).inClause clause

/-- Only a leaf can be a range, so everything else is read as a value. -/
theorem members_substitute {e : Expr} (h : s.Follows s' σ e) :
    Alike Refusal.SameCause (s.members clause e)
      (s'.members clause (e.substitute σ .members)) := by
  cases e with
  | tagged _ _ | and _ | or _ | compare _ _ _ | isNil _ | not _ => exact value_substitute h
  | _ => exact (h.leaf rfl).members clause

/-! ### Conditions -/

theorem comparison_substitute {op : CompareOp} {left right : Expr} (hleft : s.Follows s' σ left)
    (hright : s.Follows s' σ right) :
    Alike Refusal.SameCause (s.comparison clause op left right)
      (s'.comparison clause op (left.substitute σ .name) (right.substitute σ op.place)) := by
  refine (field_substitute hleft).bind fun key => ?_
  cases op with
  | isIn => exact (members_substitute hright).bind fun v => .ok _
  | _ => exact (value_substitute hright).bind fun v => .ok _

/-- Replacing leaves does not change how the pair of a condition is negated. -/
theorem negated_substitute {e : Expr} (h : s.Follows s' σ e) :
    (e.substitute σ .condition).negated = e.negated := by
  funext p
  cases e with
  | compare op left right => exact Expr.negated_compare op _ _ _ _ p
  | tagged _ _ | and _ | or _ | isNil _ | not _ => rfl
  | _ => exact Expr.negated_of_not_operator ((h.leaf rfl).isOperator .condition) p

theorem isOperator_substitute {e : Expr} (h : s.Follows s' σ e) (place : Place) :
    (e.substitute σ place).isOperator = e.isOperator := by
  cases e with
  | tagged _ _ | and _ | or _ | compare _ _ _ | isNil _ | not _ => rfl
  | _ => exact (h.leaf rfl).isOperator place

theorem operand_substitute {e : Expr} (h : s.Follows s' σ e)
    (hcond : Alike Refusal.SameCause (s.condition clause e)
      (s'.condition clause (e.substitute σ .condition))) :
    Alike Refusal.SameCause (s.operand clause e) (s'.operand clause (e.substitute σ .value)) := by
  unfold operand
  rw [isOperator_substitute h]
  split
  · rename_i hoperator
    rw [Expr.substitute_operator hoperator .value .condition]
    exact hcond.map asDocument
  · exact value_substitute h

/-- The operands of a connective, whichever it is. -/
theorem operands_substitute {es : List Expr} (h : ∀ e ∈ es, s.Follows s' σ e)
    (hcond : ∀ e ∈ es, Alike Refusal.SameCause (s.condition clause e)
      (s'.condition clause (e.substitute σ .condition))) :
    Alike Refusal.SameCause (es.mapM (s.operand clause))
      ((Expr.substituteAll σ es).mapM (s'.operand clause)) := by
  rw [Expr.substituteAll_eq_map]
  exact Alike.mapM fun e he => operand_substitute (h e he) (hcond e he)

/-- A condition is planned as it is planned with its leaves replaced. -/
theorem condition_substitute {e : Expr} (h : s.Follows s' σ e) :
    Alike Refusal.SameCause (s.condition clause e)
      (s'.condition clause (e.substitute σ .condition)) := by
  induction e with
  | and es ih =>
    have hes := (Expr.everywhere_and.mp h).2
    rw [Expr.substitute, condition_and, condition_and]
    exact (operands_substitute hes fun e he => ih e he (hes e he)).map _
  | or es ih =>
    have hes := (Expr.everywhere_or.mp h).2
    rw [Expr.substitute, condition_or, condition_or]
    exact (operands_substitute hes fun e he => ih e he (hes e he)).map _
  | compare op left right =>
    obtain ⟨-, hleft, hright⟩ := Expr.everywhere_compare.mp h
    rw [Expr.substitute, condition_compare, condition_compare]
    exact comparison_substitute hleft hright
  | isNil operand =>
    rw [Expr.substitute, condition_isNil, condition_isNil]
    exact (field_substitute (Expr.everywhere_isNil.mp h).2).map _
  | not operand ih =>
    have hoperand := (Expr.everywhere_not.mp h).2
    rw [Expr.substitute, condition_not, condition_not, negated_substitute hoperand]
    exact (ih hoperand).map _
  | tagged value cast =>
    rw [Expr.substitute]
    simp only [condition]
    exact alike_invalid clause _ _
  | _ => exact (h.leaf rfl).condition clause

/-! ### Clauses -/

theorem filter_substitute {es : List Expr} (h : ∀ e ∈ es, s.Follows s' σ e) :
    Alike Refusal.SameCause (s.filter clause es)
      (s'.filter clause (es.map (·.substitute σ .condition))) :=
  (Alike.mapM fun e he => condition_substitute (h e he)).map _

theorem order_substitute {items : List OrderItem} (h : ∀ item ∈ items, s.Follows s' σ item.expr) :
    Alike Refusal.SameCause (s.order items)
      (s'.order (items.map fun item => { item with expr := item.expr.substitute σ .name })) :=
  (Alike.mapM fun item hitem => (field_substitute (h item hitem)).bind fun _ => .ok _).map _

theorem output_substitute {source : Source} {e : Expr} (h : s.Follows s' σ e) :
    Alike Refusal.SameCause (s.output source e)
      (s'.output source (e.substitute σ .selected)) := by
  cases e with
  | tagged _ _ | and _ | or _ | compare _ _ _ | isNil _ | not _ => exact (value_substitute h).map _
  | _ => exact (h.leaf rfl).selected source

theorem selection_substitute {source : Source} {selection : Option (List Expr)}
    (h : ∀ e ∈ selection.getD [], s.Follows s' σ e) :
    Alike Refusal.SameCause (s.selection source selection)
      (s'.selection source (selection.map (·.map (·.substitute σ .selected)))) := by
  rw [selection_eq, selection_eq]
  refine Alike.map _ ?_
  cases selection with
  | none => exact .ok []
  | some items => exact Alike.mapM fun e he => output_substitute (h e he)

theorem integer_substitute {e? : Option Expr} (h : ∀ e ∈ e?.toList, s.Follows s' σ e) :
    Alike Refusal.SameCause (s.integer clause e?)
      (s'.integer clause (e?.map (·.substitute σ .value))) := by
  cases e? with
  | none => exact .ok 0
  | some e =>
    refine (value_substitute (h e (by simp))).bind fun v => ?_
    cases v.int? with
    | none => exact alike_invalid clause _ _
    | some n => exact .ok n

theorem encodeFields_substitute {fields : List (String × Expr)}
    (h : ∀ f ∈ fields, s.Follows s' σ f.2) :
    Alike ValueError.SameCause (encodeFields s.params fields)
      (encodeFields s'.params (fields.map fun f => (f.1, f.2.substitute σ .value))) := by
  refine Alike.bind (Alike.mapM fun f hf => ?_) fun pairs => alike_encoded_self _
  exact (eval_substitute (h f hf)).bind fun v => .ok _

end Scope
end DocQuery
