import DocQuery.Expr.Describe
import DocQuery.Query.Basic

/-! # Refusals

Why a query cannot be planned.  A refusal is an answer: it names a feature that the store
lacks, or the expression that has no counterpart in the store and the clause it stands in.
Reading a parameter that was not given is no refusal, but a fault of the caller; a `Failure`
is one or the other. -/
namespace DocQuery

/-- Features of a query that a document store lacks. -/
inductive Feature where
  | distinct
  | lock
  | joins
  | groupBy
  | having
  deriving DecidableEq

namespace Feature

def all : List Feature := [.distinct, .lock, .joins, .groupBy, .having]

def label : Feature → String
  | .distinct => "distinct clauses"
  | .lock => "locking"
  | .joins => "join clauses"
  | .groupBy => "group_by clauses"
  | .having => "having clauses"

/-- The word for a feature. -/
def word : Feature → String
  | .distinct => "distinct"
  | .lock => "lock"
  | .joins => "joins"
  | .groupBy => "group_by"
  | .having => "having"

end Feature

/-- The parts of a query in which an expression can be refused. -/
inductive Clause where
  | filter
  | selection
  | order
  | limit
  | offset
  | update
  | insert
  deriving DecidableEq

namespace Clause

def all : List Clause := [.filter, .selection, .order, .limit, .offset, .update, .insert]

def label : Clause → String
  | .filter => "where clause"
  | .selection => "select clause"
  | .order => "order clause"
  | .limit => "limit clause"
  | .offset => "offset clause"
  | .update => "update command"
  | .insert => "insert command"

/-- The word for a clause. -/
def word : Clause → String
  | .filter => "Where"
  | .selection => "Select"
  | .order => "Order"
  | .limit => "Limit"
  | .offset => "Offset"
  | .update => "UpdateCommand"
  | .insert => "InsertCommand"

end Clause

/-- What is wrong with an expression that should give a value, or with a key. -/
inductive Flaw where
  /-- The expression is no value. -/
  | notValue
  /-- The cast does not fit the value. -/
  | badCast (target : Cast)
  /-- The store refuses the key. -/
  | badKey
  deriving DecidableEq

def Flaw.message : Flaw → String
  | .notValue => "not a value"
  | .badCast target => "cannot cast to " ++ target.label
  | .badKey => "invalid document key"

/-- A value that cannot be written to the store. -/
structure ValueError where
  node : Expr
  flaw : Flaw

def ValueError.message (e : ValueError) : String :=
  "cannot encode " ++ e.node.describe ++ ": " ++ e.flaw.message

/-- The refusal of a query. -/
inductive Refusal where
  | unsupported (feature : Feature)
  /-- An expression that cannot stand where it does.  The flaw is given if a value was
  wanted. -/
  | invalid (clause : Clause) (node : Expr) (flaw : Option Flaw)

namespace Refusal

/-- The refusal for a bad value in a clause. -/
def ofValueError (clause : Clause) (e : ValueError) : Refusal :=
  .invalid clause e.node (some e.flaw)

def code : Refusal → String
  | .unsupported _ => "DOCWIRE_UNSUPPORTED_CLAUSE"
  | .invalid .. => "DOCWIRE_INVALID_EXPRESSION"

/-- The part of the query at fault. -/
def place : Refusal → String
  | .unsupported feature => feature.label
  | .invalid clause _ _ => clause.label

def message : Refusal → String
  | .unsupported feature => "document store does not support " ++ feature.label
  | .invalid clause node _ => "invalid expression in " ++ clause.label ++ ": " ++ node.describe

end Refusal

/-- Why there is no result: a refusal, or a parameter outside those given. -/
inductive Failure (ε : Type) where
  | refused (e : ε)
  | outOfBounds (size index : Nat)

namespace Failure

variable {ε δ : Type}

def map (f : ε → δ) : Failure ε → Failure δ
  | .refused e => .refused (f e)
  | .outOfBounds size index => .outOfBounds size index

/-- What a read outside the parameters says. -/
def boundsMessage (size index : Nat) : String :=
  "index out of bounds: the len is " ++ size.repr ++ " but the index is " ++ index.repr

end Failure

/-- A value for the store, or why there is none. -/
abbrev Encoded (α : Type) := Except (Failure ValueError) α

/-- A part of a plan, or why there is none. -/
abbrev Planned (α : Type) := Except (Failure Refusal) α

namespace Planned

def refuse {α : Type} (r : Refusal) : Planned α := .error (.refused r)

/-- An expression that cannot stand in a clause. -/
def invalid {α : Type} (clause : Clause) (node : Expr) : Planned α :=
  refuse (.invalid clause node none)

end Planned

/-- A value in a clause. -/
def Encoded.inClause {α : Type} (clause : Clause) (r : Encoded α) : Planned α :=
  r.mapError (.map (.ofValueError clause))

end DocQuery
