import DocQuery.Plan.Outline
import DocQuery.Plan.Write
import DocQuery.Settings

/-! # Tasks

A task is one thing to plan.  A planner, which has settings and knows the primary keys of
models, turns it into a plan and says what the journal records of that. -/
namespace DocQuery

/-- Something to plan.  For single records the primary key is given, for queries it is that of
their model. -/
inductive Task where
  | find (q : Query) (params : List Value)
  | count (q : Query) (params : List Value)
  | updateAll (q : Query) (params : List Value)
  | deleteAll (q : Query) (params : List Value)
  | insert (coll : String) (primaryKey : Option String) (record : Document)
  | update (coll : String) (primaryKey : Option String) (values filter : Document)
  | delete (coll : String) (primaryKey : Option String) (filter : Document)

namespace Task

/-- The word for a kind of task. -/
def kind : Task → String
  | .find .. => "all"
  | .count .. => "count"
  | .updateAll .. => "update_all"
  | .deleteAll .. => "delete_all"
  | .insert .. => "insert"
  | .update .. => "update"
  | .delete .. => "delete"

/-- The collection of a task. -/
def coll : Task → String
  | .find q _ | .count q _ | .updateAll q _ | .deleteAll q _ => q.source.coll
  | .insert coll _ _ | .update coll _ _ _ | .delete coll _ _ => coll

end Task

/-- What turns tasks into plans. -/
structure Planner where
  settings : Settings := {}
  registry : Registry := []

namespace Planner

/-- The primary key of an optional model, as single records look it up. -/
def primaryKey? (p : Planner) (model : Option String) : Option String :=
  model.bind p.registry.primaryKey?

/-- The registry that queries are planned with, filled with the pairs of the planner's own. -/
def schema (p : Planner) : Registry := .ofPairs p.registry

/-- The scope of a query. -/
def scope (p : Planner) (q : Query) (params : List Value) : Scope where
  params := params
  primaryKey := q.source.model.bind p.schema.primaryKey?
  identityKey := p.settings.identityKey

/-- The scope of a single record. -/
def recordScope (p : Planner) (primaryKey : Option String) : Scope where
  primaryKey := primaryKey
  identityKey := p.settings.identityKey

/-- The plan for a task. -/
def plan (p : Planner) : Task → Planned Plan
  | .find q params => .find <$> (p.scope q params).find q
  | .count q params => .count <$> (p.scope q params).count q
  | .updateAll q params => .write <$> (p.scope q params).updateAll q
  | .deleteAll q params => .write <$> (p.scope q params).deleteAll q
  | .insert coll primaryKey record => .write <$> (p.recordScope primaryKey).insert coll record.pairs
  | .update coll primaryKey values filter =>
      .write <$> (p.recordScope primaryKey).update coll values.pairs filter.pairs
  | .delete coll primaryKey filter => .write <$> (p.recordScope primaryKey).delete coll filter.pairs

/-- What the journal records of a task: a plan in passing and a refusal as a warning. -/
def journal (p : Planner) (t : Task) : String :=
  match p.plan t with
  | .ok _ =>
      Journal.write p.settings.threshold .trace "QUERY_COMPILED"
        [("kind", t.kind), ("collection", t.coll)]
  | .error (.refused r) =>
      Journal.write p.settings.threshold .warn "QUERY_REJECTED"
        [("kind", t.kind), ("collection", t.coll), ("code", r.code), ("message", r.message)]
  | .error (.outOfBounds _ _) => ""

end Planner
end DocQuery
