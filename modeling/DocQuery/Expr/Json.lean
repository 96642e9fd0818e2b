import DocQuery.Expr.Basic
import DocQuery.Json.Record
import DocQuery.Value.Json

/-! # Expressions as JSON

An expression is a choice (`Json.choice?`) named after its kind; comparisons, ranges and
casts are records.  `Expr.toJson` writes one and `Expr.ofJson?` reads it back. -/
namespace DocQuery

/-! ### Words -/

namespace Cast

/-- The word for a cast. -/
def word : Cast → String
  | .objectId => "object_id"
  | .uuid => "uuid"
  | .binary => "binary"
  | .dateTime => "date_time"
  | .float => "float"

def ofWord? : String → Option Cast
  | "object_id" => some .objectId
  | "uuid" => some .uuid
  | "binary" => some .binary
  | "date_time" => some .dateTime
  | "float" => some .float
  | _ => none

theorem ofWord?_word (c : Cast) : ofWord? c.word = some c := by cases c <;> rfl

def ofJson? (emptyContent : Bool) (j : Json) : Option Cast :=
  (j.word? emptyContent).bind ofWord?

end Cast

namespace CompareOp

/-- The word for a comparison. -/
def word : CompareOp → String
  | .eq => "eq"
  | .ne => "ne"
  | .gt => "gt"
  | .gte => "gte"
  | .lt => "lt"
  | .lte => "lte"
  | .isIn => "in"

def ofWord? : String → Option CompareOp
  | "eq" => some .eq
  | "ne" => some .ne
  | "gt" => some .gt
  | "gte" => some .gte
  | "lt" => some .lt
  | "lte" => some .lte
  | "in" => some .isIn
  | _ => none

theorem ofWord?_word (op : CompareOp) : ofWord? op.word = some op := by cases op <;> rfl

def ofJson? (emptyContent : Bool) (j : Json) : Option CompareOp :=
  (j.word? emptyContent).bind ofWord?

end CompareOp

namespace Expr

/-! ### Writing -/

mutual
/-- The tree of an expression. -/
def toJson : Expr → Json
  | .field name => .obj [("field", .str name)]
  | .source => .str "source"
  | .literal value => .obj [("literal", value.toJson)]
  | .param index => .obj [("param", .int index.toNat)]
  | .paramRange start count =>
      .obj [("param_range", .obj [("start", .int start.toNat), ("len", .int count.toNat)])]
  | .tagged value cast =>
      .obj [("tagged", .obj [("value", value.toJson), ("cast", .str cast.word)])]
  | .and operands => .obj [("and", .arr (allToJson operands))]
  | .or operands => .obj [("or", .arr (allToJson operands))]
  | .compare op left right =>
      .obj [("compare",
        .obj [("op", .str op.word), ("left", left.toJson), ("right", right.toJson)])]
  | .isNil operand => .obj [("is_nil", operand.toJson)]
  | .not operand => .obj [("not", operand.toJson)]

def allToJson : List Expr → List Json
  | [] => []
  | e :: es => e.toJson :: allToJson es
end

/-! ### Reading -/

/-- Reads an expression.  `fuel` bounds the recursion; each call goes into a container, so one
more than the depth of the tree is enough. -/
def read? (emptyContent : Bool) : Nat → Json → Option Expr
  | 0, _ => none
  | fuel + 1, j => do
      let (name, content) ← j.choice?
      match name, content with
      | "source", content => if Json.isNothing emptyContent content then some .source else none
      | "field", some j => j.string?.map .field
      | "literal", some j => (Value.ofJson? j).map .literal
      | "param", some j => j.index?.map .param
      | "param_range", some j => do
          let fields ← j.fields? ["start", "len"]
          let start ← fields.get? "start" Json.index?
          let count ← fields.get? "len" Json.index?
          some (.paramRange start count)
      | "tagged", some j => do
          let fields ← j.fields? ["value", "cast"]
          let value ← fields.get? "value" (read? emptyContent fuel)
          let cast ← fields.get? "cast" (Cast.ofJson? emptyContent)
          some (.tagged value cast)
      | "and", some j => (j.list? (read? emptyContent fuel)).map .and
      | "or", some j => (j.list? (read? emptyContent fuel)).map .or
      | "compare", some j => do
          let fields ← j.fields? ["op", "left", "right"]
          let op ← fields.get? "op" (CompareOp.ofJson? emptyContent)
          let left ← fields.get? "left" (read? emptyContent fuel)
          let right ← fields.get? "right" (read? emptyContent fuel)
          some (.compare op left right)
      | "is_nil", some j => (read? emptyContent fuel j).map .isNil
      | "not", some j => (read? emptyContent fuel j).map .not
      | _, _ => none

/-- The expression of a tree. -/
def ofJson? (emptyContent : Bool) (j : Json) : Option Expr := read? emptyContent (j.depth + 1) j

end Expr
end DocQuery
