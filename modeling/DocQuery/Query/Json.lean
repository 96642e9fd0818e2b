import DocQuery.Expr.Json
import DocQuery.Query.Basic

/-! # Queries as JSON

A query is a record of its clauses, of which all but the source may be left out.
`Query.toJson` writes every clause and `Query.ofJson?` reads it back. -/
namespace DocQuery

/-! ### Words -/

namespace Direction

/-- The word for a direction. -/
def word : Direction → String
  | .ascending => "asc"
  | .descending => "desc"

def ofWord? : String → Option Direction
  | "asc" => some .ascending
  | "desc" => some .descending
  | _ => none

theorem ofWord?_word (d : Direction) : ofWord? d.word = some d := by cases d <;> rfl

def ofJson? (emptyContent : Bool) (j : Json) : Option Direction :=
  (j.word? emptyContent).bind ofWord?

end Direction

namespace UpdateOp

/-- The word for an update. -/
def word : UpdateOp → String
  | .set => "set"
  | .increment => "inc"
  | .push => "push"
  | .pull => "pull"

def ofWord? : String → Option UpdateOp
  | "set" => some .set
  | "inc" => some .increment
  | "push" => some .push
  | "pull" => some .pull
  | _ => none

theorem ofWord?_word (op : UpdateOp) : ofWord? op.word = some op := by cases op <;> rfl

def ofJson? (emptyContent : Bool) (j : Json) : Option UpdateOp :=
  (j.word? emptyContent).bind ofWord?

end UpdateOp

/-! ### Clauses -/

namespace Source

def toJson (s : Source) : Json := .obj [("coll", .str s.coll), ("model", .orNull .str s.model)]

def ofJson? (j : Json) : Option Source := do
  let fields ← j.fields? ["coll", "model"]
  let coll ← fields.get? "coll" Json.string?
  let model ← fields.getD? "model" none (Json.nullable? Json.string?)
  some { coll, model }

end Source

namespace OrderItem

def toJson (item : OrderItem) : Json :=
  .obj [("direction", .str item.direction.word), ("expr", item.expr.toJson)]

def ofJson? (emptyContent : Bool) (j : Json) : Option OrderItem := do
  let fields ← j.fields? ["direction", "expr"]
  let direction ← fields.get? "direction" (Direction.ofJson? emptyContent)
  let expr ← fields.get? "expr" (Expr.ofJson? emptyContent)
  some { direction, expr }

end OrderItem

namespace UpdateGroup

/-- The updates of a group: each a name and what it is set to. -/
def fieldsToJson (fields : List (String × Expr)) : Json :=
  .arr (fields.map fun (name, e) => .arr [.str name, e.toJson])

def fieldsOfJson? (emptyContent : Bool) : Json → Option (List (String × Expr)) :=
  Json.list? (Json.pair? Json.string? (Expr.ofJson? emptyContent))

def toJson (group : UpdateGroup) : Json :=
  .obj [("op", .str group.op.word), ("fields", fieldsToJson group.fields)]

def ofJson? (emptyContent : Bool) (j : Json) : Option UpdateGroup := do
  let fields ← j.fields? ["op", "fields"]
  let op ← fields.get? "op" (UpdateOp.ofJson? emptyContent)
  let fields ← fields.get? "fields" (fieldsOfJson? emptyContent)
  some { op, fields }

end UpdateGroup

namespace Join

def toJson (join : Join) : Json := .obj [("coll", .str join.coll), ("on", join.on.toJson)]

def ofJson? (emptyContent : Bool) (j : Json) : Option Join := do
  let fields ← j.fields? ["coll", "on"]
  let coll ← fields.get? "coll" Json.string?
  let on ← fields.get? "on" (Expr.ofJson? emptyContent)
  some { coll, on }

end Join

/-! ### Whole queries -/

namespace Query

/-- The tree of a query. -/
def toJson (q : Query) : Json :=
  .obj [("from", q.source.toJson),
    ("wheres", .arr (q.conditions.map Expr.toJson)),
    ("order_bys", .arr (q.orders.map fun items => .arr (items.map OrderItem.toJson))),
    ("select", .orNull (fun items => .arr (items.map Expr.toJson)) q.selection),
    ("limit", .orNull Expr.toJson q.limit),
    ("offset", .orNull Expr.toJson q.offset),
    ("updates", .arr (q.updates.map UpdateGroup.toJson)),
    ("distinct", .orNull Expr.toJson q.distinct),
    ("lock", .orNull .str q.lock),
    ("joins", .arr (q.joins.map Join.toJson)),
    ("group_bys", .arr (q.groups.map Expr.toJson)),
    ("havings", .arr (q.havings.map Expr.toJson))]

/-- The text of a query. -/
def text (q : Query) : String := q.toJson.text

/-- The query of a tree. -/
def ofJson? (emptyContent : Bool) (j : Json) : Option Query := do
  let fields ← j.fields? ["from", "wheres", "order_bys", "select", "limit", "offset", "updates",
    "distinct", "lock", "joins", "group_bys", "havings"]
  let expr := Expr.ofJson? emptyContent
  let items := Json.list? (OrderItem.ofJson? emptyContent)
  let source ← fields.get? "from" Source.ofJson?
  let conditions ← fields.getD? "wheres" [] (Json.list? expr)
  let orders ← fields.getD? "order_bys" [] (Json.list? items)
  let selection ← fields.getD? "select" none (Json.nullable? (Json.list? expr))
  let limit ← fields.getD? "limit" none (Json.nullable? expr)
  let offset ← fields.getD? "offset" none (Json.nullable? expr)
  let updates ← fields.getD? "updates" [] (Json.list? (UpdateGroup.ofJson? emptyContent))
  let distinct ← fields.getD? "distinct" none (Json.nullable? expr)
  let lock ← fields.getD? "lock" none (Json.nullable? Json.string?)
  let joins ← fields.getD? "joins" [] (Json.list? (Join.ofJson? emptyContent))
  let groups ← fields.getD? "group_bys" [] (Json.list? expr)
  let havings ← fields.getD? "havings" [] (Json.list? expr)
  some { source, conditions, orders, selection, limit, offset, updates, distinct, lock, joins,
         groups, havings }

/-- A text that holds one query. -/
def parse? (s : String) : Option Query := (Json.parse? s).bind (ofJson? false)

end Query
end DocQuery
