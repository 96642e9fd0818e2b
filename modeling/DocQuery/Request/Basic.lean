import DocQuery.Plan.Task

/-! # Requests

A request asks for one plan.  It names models, where a task holds their primary keys. -/
namespace DocQuery

/-- What can be asked for. -/
inductive Request where
  | find (q : Query) (params : List Value)
  | count (q : Query) (params : List Value)
  | updateAll (q : Query) (params : List Value)
  | deleteAll (q : Query) (params : List Value)
  | insert (coll : String) (model : Option String) (record : Document)
  | update (coll : String) (model : Option String) (values filter : Document)
  | delete (coll : String) (model : Option String) (filter : Document)

namespace Request

/-- The query of a request and the parameters given to it. -/
def query? : Request → Option (Query × List Value)
  | .find q params | .count q params | .updateAll q params | .deleteAll q params => some (q, params)
  | .insert .. | .update .. | .delete .. => none

/-- The task of a request for a planner. -/
def task (p : Planner) : Request → Task
  | .find q params => .find q params
  | .count q params => .count q params
  | .updateAll q params => .updateAll q params
  | .deleteAll q params => .deleteAll q params
  | .insert coll model record => .insert coll (p.primaryKey? model) record
  | .update coll model values filter => .update coll (p.primaryKey? model) values filter
  | .delete coll model filter => .delete coll (p.primaryKey? model) filter

end Request

/-- The plan for a request. -/
def Planner.answer (p : Planner) (r : Request) : Planned Plan := p.plan (r.task p)

end DocQuery
