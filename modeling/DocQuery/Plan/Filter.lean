import DocQuery.Plan.Scope

/-! # Filters

A condition becomes one pair of a filter document.  Equality and null tests are the field
itself with its value, other comparisons a document with one operator, and the connectives
arrays under `$and` and `$or`.  Negation goes into the operator where the store has one,
and wraps what is left into `$not`.  A parameter in the place of a condition has to be code
that the store runs. -/
namespace DocQuery.Scope

/-- The pair that compares a field. -/
def comparison (s : Scope) (clause : Clause) (op : CompareOp) (left right : Expr) :
    Planned (String × Value) := do
  let key ← s.field clause left
  match op with
  | .eq => pure (key, ← s.value clause right)
  | .isIn => pure (key, .document (.single "$in" (← s.members clause right)))
  | op => pure (key, .document (.single op.operator (← s.value clause right)))

/-- The pair for code as a condition. -/
def code (s : Scope) (clause : Clause) (e : Expr) : Planned (String × Value) := do
  match ← s.value clause e with
  | .scalar (.code source) => pure ("$where", .scalar (.code source))
  | _ => Planned.invalid clause e

mutual
/-- The pair of a condition. -/
def condition (s : Scope) (clause : Clause) : Expr → Planned (String × Value)
  | .and operands => do pure ("$and", .array (← s.operands clause operands))
  | .or operands => do pure ("$or", .array (← s.operands clause operands))
  | .isNil operand => do pure (← s.field clause operand, .null)
  | .compare op left right => s.comparison clause op left right
  | .not (.compare .isIn left right) => do
      let key ← s.field clause left
      pure (key, .document (.single "$nin" (← s.members clause right)))
  | .not (.isNil operand) => do
      pure (← s.field clause operand, .document (.single "$ne" .null))
  | .not (.compare .eq left right) => do
      let key ← s.field clause left
      pure (key, .document (.single "$ne" (← s.value clause right)))
  | .not operand => do
      let (key, value) ← s.condition clause operand
      pure ("$not", .document (.single key value))
  | .param index => s.code clause (.param index)
  | e => Planned.invalid clause e

/-- The operands of a connective: conditions as documents, all else as values. -/
def operands (s : Scope) (clause : Clause) : List Expr → Planned (List Value)
  | [] => .ok []
  | e :: es => do
      let v ←
        if e.isOperator then do
          let (key, value) ← s.condition clause e
          pure (Value.document (.single key value))
        else s.value clause e
      let vs ← s.operands clause es
      pure (v :: vs)
end

/-- The filter of conditions that all have to hold: their pairs side by side. -/
def filter (s : Scope) (clause : Clause) (conditions : List Expr) : Planned Document :=
  Document.ofPairs <$> conditions.mapM (s.condition clause)

example : (Scope.mk [] (some "id") "_id").condition .filter
      (.not (.compare .eq (.field "id") (.literal (.int 1)))) =
    .ok ("_id", .document (.single "$ne" (.int 1))) := rfl
example : (Scope.mk [] none "_id").condition .filter
      (.not (.compare .gt (.field "age") (.literal (.int 1)))) =
    .ok ("$not", .document (.single "age" (.document (.single "$gt" (.int 1))))) := rfl

end DocQuery.Scope
