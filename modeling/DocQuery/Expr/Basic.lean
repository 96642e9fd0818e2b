import DocQuery.Value.Cast

/-! # Query expressions

The expressions of a query over one collection: references to fields and to the whole
record, values (literals, bound parameters and casts of them), and conditions built from
comparisons, null tests and connectives. -/
namespace DocQuery

/-- Comparisons between a field and a value. -/
inductive CompareOp where
  | eq
  | ne
  | gt
  | gte
  | lt
  | lte
  /-- Membership in a list. -/
  | isIn
  deriving DecidableEq

namespace CompareOp

/-- The sign of a comparison. -/
def sign : CompareOp → String
  | .eq => "=="
  | .ne => "!="
  | .gt => ">"
  | .gte => ">="
  | .lt => "<"
  | .lte => "<="
  | .isIn => "in"

/-- The operator of the store for a comparison. -/
def operator : CompareOp → String
  | .eq => "$eq"
  | .ne => "$ne"
  | .gt => "$gt"
  | .gte => "$gte"
  | .lt => "$lt"
  | .lte => "$lte"
  | .isIn => "$in"

end CompareOp

/-- An expression. -/
inductive Expr where
  /-- A field of the record. -/
  | field (name : String)
  /-- The whole record. -/
  | source
  | literal (value : Value)
  /-- A bound parameter by position. -/
  | param (index : UInt64)
  /-- The bound parameters from `start` on, `count` of them. -/
  | paramRange (start count : UInt64)
  /-- A value with a cast. -/
  | tagged (value : Expr) (cast : Cast)
  | and (operands : List Expr)
  | or (operands : List Expr)
  | compare (op : CompareOp) (left right : Expr)
  /-- Whether a field is null. -/
  | isNil (operand : Expr)
  | not (operand : Expr)

instance : Inhabited Expr := ⟨.source⟩

namespace Expr

/-- Whether an expression is a condition rather than a value. -/
def isOperator : Expr → Bool
  | .and _ | .or _ | .compare .. | .isNil _ | .not _ => true
  | .field _ | .source | .literal _ | .param _ | .paramRange .. | .tagged .. => false

/-! ### Parameters -/

/-- The largest index there is; bounds stop here. -/
def maxBound : Nat := UInt64.size - 1

mutual
/-- One more than the largest parameter index that an expression reads, and zero if it reads
none.  A range that runs past the last index is bounded by it, which no list of parameters
reaches. -/
def paramBound : Expr → Nat
  | .param index => min (index.toNat + 1) maxBound
  | .paramRange start count =>
      if count = 0 then 0 else min (start.toNat + count.toNat) maxBound
  | .tagged value _ => value.paramBound
  | .and operands | .or operands => paramBounds operands
  | .compare _ left right => max left.paramBound right.paramBound
  | .isNil operand | .not operand => operand.paramBound
  | .field _ | .source | .literal _ => 0

/-- The largest bound of a list. -/
def paramBounds : List Expr → Nat
  | [] => 0
  | e :: es => max e.paramBound (paramBounds es)
end

end Expr
end DocQuery
