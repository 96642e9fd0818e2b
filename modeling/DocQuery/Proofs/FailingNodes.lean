import DocQuery.Proofs.ExprNodes
import DocQuery.Proofs.FilterRules
import DocQuery.Proofs.SelectionItems

/-! # Where planning fails

An expression is planned as a condition, a value, the name of a field, an item of a selection or an
integer, and each of these can fail in its own way.  Yet all failures are of a few kinds, and each
is a failure at one node of the expression (`Scope.FailsAt`): the node is misplaced, it has no
value, or it reads a parameter that is missing.  Here every stage is gone through once.  Which
clauses are refused, what refusals point at and that accepted requests stay within their
parameters are read off from the nodes (`Scope.FailsIn`), without another look at the stages. -/
namespace DocQuery

/-- Reading parameters refuses nothing: it fails only by a missing one. -/
theorem paramsFrom_outOfBounds {ε : Type} (params : List Value) (start count : Nat) :
    FailsOnly (fun failure => ∃ size index, failure = .outOfBounds size index)
      (paramsFrom params start count : Except (Failure ε) (List Value)) := by
  induction count generalizing start with
  | zero => exact .ok []
  | succ count ih =>
    refine FailsOnly.bind ?_ fun v => (ih (start + 1)).bind fun vs => .ok (v :: vs)
    unfold paramAt
    split
    · exact .ok _
    · exact .error ⟨params.length, start, rfl⟩

namespace Scope

/-- Planning fails at the node. -/
inductive FailsAt (s : Scope) (clause : Clause) : Expr → Failure Refusal → Prop
  | misplaced (node : Expr) : FailsAt s clause node (.refused (.invalid clause node none))
  | noValue {node : Expr} {error : ValueError}
      (h : node.eval s.params = .error (.refused error)) :
      FailsAt s clause node (.refused (.ofValueError clause error))
  | missing {node : Expr} {size index : Nat}
      (h : node.eval s.params = .error (.outOfBounds size index)) :
      FailsAt s clause node (.outOfBounds size index)
  | missingMember {start count : UInt64} {size index : Nat}
      (h : (paramsFrom s.params start.toNat count.toNat : Planned (List Value)) =
        .error (.outOfBounds size index)) :
      FailsAt s clause (.paramRange start count) (.outOfBounds size index)

/-- Planning fails at a node of the expression. -/
def FailsIn (s : Scope) (clause : Clause) (e : Expr) (failure : Failure Refusal) : Prop :=
  ∃ node ∈ e.nodes, s.FailsAt clause node failure

variable {s : Scope} {clause : Clause} {α : Type}

theorem FailsAt.failsIn {e : Expr} {failure : Failure Refusal} (h : s.FailsAt clause e failure) :
    s.FailsIn clause e failure := ⟨e, e.self_mem_nodes, h⟩

/-- What fails in a part of an expression fails in the expression. -/
theorem failsIn_of_part {part e : Expr} {x : Planned α} (hpart : ∀ y ∈ part.nodes, y ∈ e.nodes)
    (h : FailsOnly (s.FailsIn clause part) x) : FailsOnly (s.FailsIn clause e) x := by
  intro failure hx
  obtain ⟨node, hnode, hat⟩ := h failure hx
  exact ⟨node, hpart node hnode, hat⟩

theorem invalid_failsIn (e : Expr) :
    FailsOnly (s.FailsIn clause e) (Planned.invalid clause e : Planned α) :=
  .error (FailsAt.misplaced e).failsIn

/-! ### Names and values -/

theorem field_failsIn (e : Expr) : FailsOnly (s.FailsIn clause e) (s.field clause e) := by
  cases e with
  | field name => exact .ok _
  | _ => exact invalid_failsIn _

theorem value_failsIn (e : Expr) : FailsOnly (s.FailsIn clause e) (s.value clause e) := by
  intro failure h
  obtain ⟨cause, heval, rfl⟩ := inClause_eq_error.mp h
  cases cause with
  | refused error => exact (FailsAt.noValue heval).failsIn
  | outOfBounds size index => exact (FailsAt.missing heval).failsIn

theorem range_failsIn (start count : UInt64) :
    FailsOnly (s.FailsIn clause (.paramRange start count)) (s.range clause start count) := by
  unfold range
  split
  · intro failure h
    obtain ⟨size, index, rfl⟩ := paramsFrom_outOfBounds _ _ _ failure h
    exact (FailsAt.missingMember h).failsIn
  · exact invalid_failsIn _

theorem members_failsIn (e : Expr) : FailsOnly (s.FailsIn clause e) (s.members clause e) := by
  cases e with
  | paramRange start count => exact (range_failsIn start count).map _
  | _ => exact value_failsIn _

/-! ### Conditions -/

theorem comparand_failsIn (op : CompareOp) (e : Expr) :
    FailsOnly (s.FailsIn clause e) (s.comparand clause op e) := by
  cases op with
  | isIn => exact members_failsIn e
  | _ => exact value_failsIn e

theorem comparison_failsIn (op : CompareOp) (left right : Expr) :
    FailsOnly (s.FailsIn clause (.compare op left right)) (s.comparison clause op left right) := by
  rw [comparison_eq]
  refine (failsIn_of_part (fun y hy => ?_) (field_failsIn left)).bind fun key =>
    (failsIn_of_part (fun y hy => ?_) (comparand_failsIn op right)).bind fun v => .ok _
  · exact List.mem_cons_of_mem _ (List.mem_append_left _ hy)
  · exact List.mem_cons_of_mem _ (List.mem_append_right _ hy)

theorem code_failsIn (e : Expr) : FailsOnly (s.FailsIn clause e) (s.code clause e) := by
  refine (value_failsIn e).bind fun v => ?_
  split
  · exact .ok _
  · exact invalid_failsIn e

theorem operand_failsIn {e : Expr} (h : FailsOnly (s.FailsIn clause e) (s.condition clause e)) :
    FailsOnly (s.FailsIn clause e) (s.operand clause e) := by
  unfold operand
  split
  · exact h.map _
  · exact value_failsIn e

theorem operands_failsIn {e : Expr} {es : List Expr}
    (h : ∀ x ∈ es, FailsOnly (s.FailsIn clause x) (s.condition clause x))
    (hnodes : ∀ y ∈ Expr.allNodes es, y ∈ e.nodes) :
    FailsOnly (s.FailsIn clause e) (es.mapM (s.operand clause)) := by
  refine FailsOnly.mapM fun x hx => failsIn_of_part (fun y hy => ?_) (operand_failsIn (h x hx))
  exact hnodes y (Expr.mem_allNodes.mpr ⟨x, hx, hy⟩)

/-- Planning a condition fails at one of its nodes. -/
theorem condition_failsIn (e : Expr) : FailsOnly (s.FailsIn clause e) (s.condition clause e) := by
  induction e with
  | and es ih =>
    rw [condition_and]
    exact FailsOnly.map _ (operands_failsIn ih fun y hy => List.mem_cons_of_mem _ hy)
  | or es ih =>
    rw [condition_or]
    exact FailsOnly.map _ (operands_failsIn ih fun y hy => List.mem_cons_of_mem _ hy)
  | isNil operand =>
    rw [condition_isNil]
    refine (failsIn_of_part (fun y hy => ?_) (field_failsIn operand)).map _
    exact List.mem_cons_of_mem _ hy
  | compare op left right =>
    rw [condition_compare]
    exact comparison_failsIn op left right
  | not operand ih =>
    rw [condition_not]
    refine (failsIn_of_part (fun y hy => ?_) ih).map _
    exact List.mem_cons_of_mem _ hy
  | param index =>
    rw [condition_param]
    exact code_failsIn _
  | _ =>
    simp only [condition]
    exact invalid_failsIn _

/-! ### Selections and pages -/

theorem output_failsIn (source : Source) (e : Expr) :
    FailsOnly (s.FailsIn .selection e) (s.output source e) := by
  cases e with
  | source => exact .ok _
  | field name => exact .ok _
  | _ => exact (value_failsIn _).map _

theorem integer_failsIn (e : Expr) :
    FailsOnly (s.FailsIn clause e) (s.integer clause (some e)) := by
  refine (value_failsIn e).bind fun v => ?_
  cases v.int? with
  | none => exact invalid_failsIn e
  | some n => exact .ok n

end Scope
end DocQuery
