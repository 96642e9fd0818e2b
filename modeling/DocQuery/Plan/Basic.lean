import DocQuery.Query.Basic

/-! # Plans

What is handed to the store's driver for a query: a find, a count or a write, with the
documents that the store reads. -/
namespace DocQuery

/-- The page of a read; a limit of zero is none. -/
structure Paging where
  limit : Int64 := 0
  skip : Int64 := 0
  deriving DecidableEq

def Paging.toDocument (p : Paging) : Document :=
  .ofPairs [("num_return", .int p.limit), ("num_skip", .int p.skip)]

/-- Where one selected item of a result comes from. -/
inductive Output where
  /-- The query itself. -/
  | value (v : Value)
  /-- The whole record. -/
  | record (source : Source)
  /-- A key of the record. -/
  | key (name : String)

/-- What is made of a selection. -/
structure Selected where
  /-- The pairs that make the store send the selected keys. -/
  included : List (String × Value) := []
  /-- Whether the whole record is selected. -/
  whole : Bool := false
  /-- Where the items come from, in order. -/
  outputs : List Output := []

/-- What the store has to send for a selection; the empty document asks for all there is.
Once the whole record is selected, keys restrict nothing. -/
def Selected.projection (selected : Selected) : Document :=
  if selected.whole then .empty else .ofPairs selected.included

/-- A search for records. -/
structure Find where
  coll : String
  primaryKey : Option String := none
  params : List Value := []
  /-- The filter, or filter and order together. -/
  query : Document
  projection : Document := .empty
  outputs : List Output := []
  paging : Paging := {}

/-- A count of records. -/
structure Count where
  coll : String
  primaryKey : Option String
  filter : Document
  paging : Paging

/-- An insertion, an update or a deletion. -/
structure Write where
  coll : String
  filter : Document
  /-- What to write; a deletion writes nothing. -/
  command : Option Document
  /-- Whether every match is meant rather than one record. -/
  multi : Bool

/-- The options of a write. -/
def Write.optionsOf (multi : Bool) : Document :=
  if multi then .single "multi" (.bool true) else .empty

def Write.options (w : Write) : Document := optionsOf w.multi

/-- A plan. -/
inductive Plan where
  | find (f : Find)
  | count (c : Count)
  | write (w : Write)

/-! ### Filter and order in one document -/

namespace Find

/-- A filter and an order as one document.  Without an order it is the filter alone. -/
def compose (filter order : Document) : Document :=
  if order.isEmpty then filter
  else .ofPairs [("$query", .document filter), ("$orderby", .document order)]

/-- Whether a find holds a filter and an order. -/
def isComposed (f : Find) : Bool := f.query.keys == ["$query", "$orderby"]

/-- The filter of a find. -/
def filter (f : Find) : Document :=
  match f.query.get? "$query" with
  | some (.document d) => if f.isComposed then d else f.query
  | _ => f.query

/-- The order of a find, if it has one. -/
def order? (f : Find) : Option Document :=
  match f.query.get? "$orderby" with
  | some (.document d) => if f.isComposed then some d else none
  | _ => none

end Find
end DocQuery
