import DocQuery.Plan.Payload
import DocQuery.Plan.Read

/-! # Planning writes

Bulk writes take a query and reach every match; single writes take plain pairs and reach
one record. -/
namespace DocQuery.Scope

/-! ### Bulk writes -/

/-- The update of all that a query matches. -/
def updateAll (s : Scope) (q : Query) : Planned Write := do
  q.check
  let filter ← s.filter .filter q.conditions
  let command ← s.updateCommand q.updates
  pure { coll := q.source.coll, filter, command := some command, multi := true }

/-- The deletion of all that a query matches. -/
def deleteAll (s : Scope) (q : Query) : Planned Write := do
  q.check
  let filter ← s.filter .filter q.conditions
  pure { coll := q.source.coll, filter, command := none, multi := true }

/-! ### Single writes -/

/-- The insertion of a record. -/
def insert (s : Scope) (coll : String) (pairs : List (String × Value)) : Planned Write := do
  let record ← s.record .insert pairs
  pure { coll, filter := .empty, command := some record, multi := false }

/-- The update of the record that matches the filter's pairs. -/
def update (s : Scope) (coll : String) (pairs filter : List (String × Value)) : Planned Write := do
  let filter ← s.record .filter filter
  let record ← s.record .update pairs
  pure { coll, filter, command := some (Changes.setCommand record), multi := false }

/-- The deletion of the record that matches the filter's pairs. -/
def delete (s : Scope) (coll : String) (filter : List (String × Value)) : Planned Write := do
  let filter ← s.record .filter filter
  pure { coll, filter, command := none, multi := false }

end DocQuery.Scope
