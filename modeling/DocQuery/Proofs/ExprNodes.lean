import DocQuery.Query.Basic

/-! # The nodes of an expression

Connectives hold lists of expressions, so plain induction does not reach into them.
`Expr.induct` is the induction that does: for a connective, the statement may be assumed of
every operand.  `Expr.nodes` are the expressions that an expression is made of, itself
included, from the outside in and from left to right; statements about all parts of an
expression are statements about its nodes. -/
namespace DocQuery.Expr

/-- Induction on expressions; `induction e` uses it. -/
@[elab_as_elim, induction_eliminator]
theorem induct {motive : Expr → Prop} (field : ∀ name, motive (.field name))
    (source : motive .source) (literal : ∀ value, motive (.literal value))
    (param : ∀ index, motive (.param index))
    (paramRange : ∀ start count, motive (.paramRange start count))
    (tagged : ∀ value cast, motive value → motive (.tagged value cast))
    (and : ∀ operands, (∀ e ∈ operands, motive e) → motive (.and operands))
    (or : ∀ operands, (∀ e ∈ operands, motive e) → motive (.or operands))
    (compare : ∀ op left right, motive left → motive right → motive (.compare op left right))
    (isNil : ∀ operand, motive operand → motive (.isNil operand))
    (not : ∀ operand, motive operand → motive (.not operand)) (e : Expr) : motive e :=
  -- the second motive is what a list of operands is assumed to satisfy
  @Expr.rec motive (fun es => ∀ e ∈ es, motive e) field source literal param paramRange tagged
    and or compare isNil not (fun _ he => nomatch he)
    (fun _ _ hhead htail => List.forall_mem_cons.mpr ⟨hhead, htail⟩) e

/-! ### Nodes -/

mutual
/-- The expressions that an expression is made of. -/
def nodes : Expr → List Expr
  | .tagged value cast => .tagged value cast :: value.nodes
  | .and operands => .and operands :: allNodes operands
  | .or operands => .or operands :: allNodes operands
  | .compare op left right => .compare op left right :: (left.nodes ++ right.nodes)
  | .isNil operand => .isNil operand :: operand.nodes
  | .not operand => .not operand :: operand.nodes
  | .field name => [.field name]
  | .source => [.source]
  | .literal value => [.literal value]
  | .param index => [.param index]
  | .paramRange start count => [.paramRange start count]

/-- The nodes of all expressions of a list. -/
def allNodes : List Expr → List Expr
  | [] => []
  | e :: es => e.nodes ++ allNodes es
end

theorem self_mem_nodes (e : Expr) : e ∈ e.nodes := by
  cases e <;> simp [nodes]

theorem mem_allNodes {es : List Expr} {x : Expr} : x ∈ allNodes es ↔ ∃ e ∈ es, x ∈ e.nodes := by
  induction es with
  | nil => simp [allNodes]
  | cons e es ih => simp [allNodes, ih]

/-! ### What holds at every node -/

/-- All nodes of the expression are as `P` says. -/
def Everywhere (P : Expr → Prop) (e : Expr) : Prop := ∀ x ∈ e.nodes, P x

variable {P : Expr → Prop}

theorem forall_mem_allNodes {es : List Expr} :
    (∀ x ∈ allNodes es, P x) ↔ ∀ e ∈ es, e.Everywhere P := by
  induction es with
  | nil => simp [allNodes]
  | cons e es ih => simp only [allNodes, List.forall_mem_append, ih, List.forall_mem_cons, Everywhere]

@[simp] theorem everywhere_tagged {e : Expr} {cast : Cast} :
    (Expr.tagged e cast).Everywhere P ↔ P (.tagged e cast) ∧ e.Everywhere P :=
  List.forall_mem_cons

@[simp] theorem everywhere_and {es : List Expr} :
    (Expr.and es).Everywhere P ↔ P (.and es) ∧ ∀ e ∈ es, e.Everywhere P := by
  rw [← forall_mem_allNodes]
  exact List.forall_mem_cons

@[simp] theorem everywhere_or {es : List Expr} :
    (Expr.or es).Everywhere P ↔ P (.or es) ∧ ∀ e ∈ es, e.Everywhere P := by
  rw [← forall_mem_allNodes]
  exact List.forall_mem_cons

@[simp] theorem everywhere_compare {op : CompareOp} {left right : Expr} :
    (Expr.compare op left right).Everywhere P ↔
      P (.compare op left right) ∧ left.Everywhere P ∧ right.Everywhere P := by
  unfold Everywhere
  rw [nodes, List.forall_mem_cons, List.forall_mem_append]

@[simp] theorem everywhere_isNil {e : Expr} :
    (Expr.isNil e).Everywhere P ↔ P (.isNil e) ∧ e.Everywhere P :=
  List.forall_mem_cons

@[simp] theorem everywhere_not {e : Expr} :
    (Expr.not e).Everywhere P ↔ P (.not e) ∧ e.Everywhere P :=
  List.forall_mem_cons

@[simp] theorem everywhere_field {name : String} :
    (Expr.field name).Everywhere P ↔ P (.field name) := List.forall_mem_singleton

@[simp] theorem everywhere_source : Expr.source.Everywhere P ↔ P .source :=
  List.forall_mem_singleton

@[simp] theorem everywhere_literal {value : Value} :
    (Expr.literal value).Everywhere P ↔ P (.literal value) := List.forall_mem_singleton

@[simp] theorem everywhere_param {index : UInt64} :
    (Expr.param index).Everywhere P ↔ P (.param index) := List.forall_mem_singleton

@[simp] theorem everywhere_paramRange {start count : UInt64} :
    (Expr.paramRange start count).Everywhere P ↔ P (.paramRange start count) :=
  List.forall_mem_singleton

/-- What holds everywhere in an expression holds everywhere in each of its nodes. -/
theorem Everywhere.below {e : Expr} (h : e.Everywhere P) :
    e.Everywhere fun x => x.Everywhere P := by
  induction e with
  | tagged value cast ih => exact everywhere_tagged.mpr ⟨h, ih (everywhere_tagged.mp h).2⟩
  | and es ih =>
    exact everywhere_and.mpr ⟨h, fun e he => ih e he ((everywhere_and.mp h).2 e he)⟩
  | or es ih => exact everywhere_or.mpr ⟨h, fun e he => ih e he ((everywhere_or.mp h).2 e he)⟩
  | compare op left right ihl ihr =>
    obtain ⟨-, hleft, hright⟩ := everywhere_compare.mp h
    exact everywhere_compare.mpr ⟨h, ihl hleft, ihr hright⟩
  | isNil operand ih => exact everywhere_isNil.mpr ⟨h, ih (everywhere_isNil.mp h).2⟩
  | not operand ih => exact everywhere_not.mpr ⟨h, ih (everywhere_not.mp h).2⟩
  | _ => exact List.forall_mem_singleton.mpr h

/-- The nodes of a node are nodes of the expression. -/
theorem mem_nodes_of_mem_nodes {e x y : Expr} (hx : x ∈ e.nodes) (hy : y ∈ x.nodes) :
    y ∈ e.nodes := by
  have hself : e.Everywhere (· ∈ e.nodes) := fun _ h => h
  exact hself.below x hx y hy

end DocQuery.Expr
