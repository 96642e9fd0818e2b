import DocQuery.Plan.Failure

/-! # Names and values in a query

A scope holds what the names and parameters of a query stand for: the parameters given,
and the field that is the primary key, which the store keeps under its own identity key. -/
namespace DocQuery

/-- The parameter at an index. -/
def paramAt {ε : Type} (params : List Value) (index : Nat) : Except (Failure ε) Value :=
  match params[index]? with
  | some v => .ok v
  | none => .error (.outOfBounds params.length index)

/-- The parameters from an index on, `count` of them.  The first one missing is the failure. -/
def paramsFrom {ε : Type} (params : List Value) : (start count : Nat) →
    Except (Failure ε) (List Value)
  | _, 0 => .ok []
  | start, count + 1 => do
      let v ← paramAt params start
      let vs ← paramsFrom params (start + 1) count
      pure (v :: vs)

/-- The value of an expression: a literal, a parameter, or a cast of one. -/
def Expr.eval (params : List Value) : Expr → Encoded Value
  | .literal value => .ok value
  | .param index => paramAt params index.toNat
  | .tagged value cast => do
      let v ← value.eval params
      match cast.value? v with
      | some w => pure w
      | none => .error (.refused ⟨.tagged value cast, .badCast cast⟩)
  | e => .error (.refused ⟨e, .notValue⟩)

/-- What names and parameters stand for. -/
structure Scope where
  params : List Value := []
  primaryKey : Option String := none
  identityKey : String

namespace Scope

/-- The key under which the store keeps a field. -/
def key (s : Scope) (name : String) : String :=
  if s.primaryKey = some name then s.identityKey else name

/-- The key of an expression that names a field. -/
def field (s : Scope) (clause : Clause) : Expr → Planned String
  | .field name => .ok (s.key name)
  | e => Planned.invalid clause e

/-- The value of an expression in a clause. -/
def value (s : Scope) (clause : Clause) (e : Expr) : Planned Value :=
  (e.eval s.params).inClause clause

/-- A range of parameters.  One that ends past the last index there is cannot be meant and is
refused before anything is read. -/
def range (s : Scope) (clause : Clause) (start count : UInt64) : Planned (List Value) :=
  if start.toNat + count.toNat < UInt64.size then paramsFrom s.params start.toNat count.toNat
  else Planned.invalid clause (.paramRange start count)

/-- The members that a field is compared with: a range of parameters, or one value. -/
def members (s : Scope) (clause : Clause) : Expr → Planned Value
  | .paramRange start count => Value.array <$> s.range clause start count
  | e => s.value clause e

end Scope
end DocQuery
