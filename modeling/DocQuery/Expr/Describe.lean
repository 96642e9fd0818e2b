import DocQuery.Expr.Basic
import DocQuery.Value.Describe

/-! # Expressions in diagnostics

The text in which an error message shows the expression at fault. -/
namespace DocQuery

def Cast.describe : Cast → String
  | .objectId => "ObjectId"
  | .uuid => "Uuid"
  | .binary => "Binary"
  | .dateTime => "DateTime"
  | .float => "Float"

def CompareOp.describe : CompareOp → String
  | .eq => "Eq"
  | .ne => "Ne"
  | .gt => "Gt"
  | .gte => "Gte"
  | .lt => "Lt"
  | .lte => "Lte"
  | .isIn => "In"

namespace Expr

mutual
/-- The text of an expression in diagnostics. -/
def describe : Expr → String
  | .field name => "Field(" ++ Quoted.quote name ++ ")"
  | .source => "Source"
  | .literal value => "Literal(" ++ value.describe ++ ")"
  | .param index => "Param(" ++ index.toNat.repr ++ ")"
  | .paramRange start count =>
      r"ParamRange { start: " ++ start.toNat.repr ++ ", len: " ++ count.toNat.repr ++ r" }"
  | .tagged value cast =>
      r"Tagged { value: " ++ value.describe ++ ", cast: " ++ cast.describe ++ r" }"
  | .and operands => "And([" ++ ", ".intercalate (describeAll operands) ++ "])"
  | .or operands => "Or([" ++ ", ".intercalate (describeAll operands) ++ "])"
  | .compare op left right =>
      r"Compare { op: " ++ op.describe ++ ", left: " ++ left.describe ++ ", right: " ++
        right.describe ++ r" }"
  | .isNil operand => "IsNil(" ++ operand.describe ++ ")"
  | .not operand => "Not(" ++ operand.describe ++ ")"

def describeAll : List Expr → List String
  | [] => []
  | e :: es => e.describe :: describeAll es
end

end Expr
end DocQuery
