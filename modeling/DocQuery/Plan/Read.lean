import DocQuery.Plan.Basic
import DocQuery.Plan.Filter

/-! # Planning reads

The order, the selection and the page of a query, and the finds and counts made of them. -/
namespace DocQuery

/-! ### Supported queries -/

/-- The first feature of a query that the store lacks. -/
def Query.unsupported? (q : Query) : Option Feature :=
  if q.distinct.isSome then some .distinct
  else if q.lock.isSome then some .lock
  else if !q.joins.isEmpty then some .joins
  else if !q.groups.isEmpty then some .groupBy
  else if !q.havings.isEmpty then some .having
  else none

/-- Refuses a query with such a feature. -/
def Query.check (q : Query) : Planned Unit :=
  match q.unsupported? with
  | some feature => Planned.refuse (.unsupported feature)
  | none => .ok ()

namespace Scope

/-! ### Order -/

/-- The pair of an order item. -/
def orderPair (s : Scope) (item : OrderItem) : Planned (String × Value) := do
  let key ← s.field .order item.expr
  pure (key, .int item.direction.value)

/-- The document of an order. -/
def order (s : Scope) (items : List OrderItem) : Planned Document :=
  Document.ofPairs <$> items.mapM s.orderPair

/-! ### Selection -/

/-- Adds an item to what is selected so far. -/
def select (s : Scope) (source : Source) (selected : Selected) : Expr → Planned Selected
  | .source =>
      pure { selected with whole := true, outputs := selected.outputs ++ [.record source] }
  | .field name => do
      let key ← s.field .selection (.field name)
      pure { selected with
        included := selected.included ++ [(key, .bool true)]
        outputs := selected.outputs ++ [.key key] }
  | e => do
      let v ← s.value .selection e
      pure { selected with outputs := selected.outputs ++ [.value v] }

/-- Goes through the items of a selection, of which there are none if all is selected. -/
def selection (s : Scope) (source : Source) : Option (List Expr) → Planned Selected
  | none => .ok {}
  | some items => items.foldlM (s.select source) {}

/-! ### Page -/

/-- The integer that an expression gives; zero if there is no expression. -/
def integer (s : Scope) (clause : Clause) : Option Expr → Planned Int64
  | none => .ok 0
  | some e => do
      match (← s.value clause e).int? with
      | some n => pure n
      | none => Planned.invalid clause e

def paging (s : Scope) (limit offset : Option Expr) : Planned Paging := do
  let limit ← s.integer .limit limit
  let skip ← s.integer .offset offset
  pure { limit, skip }

/-! ### Reads -/

/-- The find for a query. -/
def find (s : Scope) (q : Query) : Planned Find := do
  q.check
  let filter ← s.filter .filter q.conditions
  let order ← s.order q.orderItems
  let selected ← s.selection q.source q.selection
  let paging ← s.paging q.limit q.offset
  pure { coll := q.source.coll, primaryKey := s.primaryKey, params := s.params,
         query := Find.compose filter order, projection := selected.projection,
         outputs := selected.outputs, paging }

/-- The count for a query, in which order and selection play no part. -/
def count (s : Scope) (q : Query) : Planned Count := do
  q.check
  let filter ← s.filter .filter q.conditions
  let paging ← s.paging q.limit q.offset
  pure { coll := q.source.coll, primaryKey := s.primaryKey, filter, paging }

end Scope
end DocQuery
