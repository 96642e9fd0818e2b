import DocQuery.Expr.Basic

/-! # Queries

A query reads or changes the records of one collection: conditions that all have to hold,
an order, a selection, a page, and the changes of a bulk update.  It may also ask for what
a document store cannot do, which is kept so that it can be refused. -/
namespace DocQuery

/-- The direction of a sort. -/
inductive Direction where
  | ascending
  | descending
  deriving DecidableEq

/-- The number by which the store knows a direction. -/
def Direction.value : Direction → Int64
  | .ascending => 1
  | .descending => -1

/-- What a bulk update does to a field. -/
inductive UpdateOp where
  | set
  | increment
  | push
  | pull
  deriving DecidableEq

/-- The operator of the store for an update. -/
def UpdateOp.operator : UpdateOp → String
  | .set => "$set"
  | .increment => "$inc"
  | .push => "$push"
  | .pull => "$pull"

/-- A collection, and the model its records belong to. -/
structure Source where
  coll : String
  model : Option String := none
  deriving DecidableEq

/-- One item of an order. -/
structure OrderItem where
  direction : Direction
  expr : Expr

/-- Updates of fields under one operator. -/
structure UpdateGroup where
  op : UpdateOp
  fields : List (String × Expr)

/-- A join with another collection. -/
structure Join where
  coll : String
  on : Expr

/-- A query. -/
structure Query where
  source : Source
  /-- All of these have to hold. -/
  conditions : List Expr := []
  /-- Orders, the earlier ones first. -/
  orders : List (List OrderItem) := []
  selection : Option (List Expr) := none
  limit : Option Expr := none
  offset : Option Expr := none
  updates : List UpdateGroup := []
  distinct : Option Expr := none
  lock : Option String := none
  joins : List Join := []
  groups : List Expr := []
  havings : List Expr := []

namespace Query

/-- The query for all records of a collection. -/
def all (coll : String) : Query where
  source := { coll }

/-- The items of all orders in a row. -/
def orderItems (q : Query) : List OrderItem := q.orders.flatten

/-- The field updates of all groups in a row. -/
def updateFields (q : Query) : List (String × Expr) := q.updates.flatMap UpdateGroup.fields

/-- Every expression of a query. -/
def exprs (q : Query) : List Expr :=
  q.conditions ++ q.orderItems.map OrderItem.expr ++ q.selection.getD [] ++ q.limit.toList ++
    q.offset.toList ++ q.updateFields.map Prod.snd ++ q.distinct.toList ++ q.joins.map Join.on ++
    q.groups ++ q.havings

/-- The number of parameters that a query needs. -/
def paramBound (q : Query) : Nat := Expr.paramBounds q.exprs

/-! ### Building queries -/

def withModel (q : Query) (model : String) : Query :=
  { q with source := { q.source with model := some model } }

def filter (q : Query) (e : Expr) : Query := { q with conditions := q.conditions ++ [e] }

def orderBy (q : Query) (items : List OrderItem) : Query := { q with orders := q.orders ++ [items] }

def select (q : Query) (items : List Expr) : Query := { q with selection := some items }

def take (q : Query) (e : Expr) : Query := { q with limit := some e }

def skip (q : Query) (e : Expr) : Query := { q with offset := some e }

def update (q : Query) (op : UpdateOp) (fields : List (String × Expr)) : Query :=
  { q with updates := q.updates ++ [{ op, fields }] }

def distinctBy (q : Query) (e : Expr) : Query := { q with distinct := some e }

def locked (q : Query) (lock : String) : Query := { q with lock := some lock }

def join (q : Query) (coll : String) (on : Expr) : Query :=
  { q with joins := q.joins ++ [{ coll, on }] }

def groupBy (q : Query) (e : Expr) : Query := { q with groups := q.groups ++ [e] }

def having (q : Query) (e : Expr) : Query := { q with havings := q.havings ++ [e] }

end Query
end DocQuery
