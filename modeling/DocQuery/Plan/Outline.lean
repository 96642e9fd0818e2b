import DocQuery.Plan.Basic
import DocQuery.Plan.Failure
import DocQuery.Value.Json

/-! # Outlines

A plan or a refusal in lines for people to read. -/
namespace DocQuery

namespace Outline

/-- A line of an outline. -/
def line (label text : String) : String := label ++ ": " ++ text ++ "\n"

/-- A line that may be missing. -/
def line? (label : String) : Option Document → String
  | none => ""
  | some d => line label d.text

def title : String := "=== EXPLAIN ===\n"

def accepted (coll : String) : String := title ++ line "Status" "ACCEPTED" ++ line "Collection" coll

end Outline

open Outline

def Find.outline (f : Find) : String :=
  accepted f.coll ++ line "Filter" f.filter.text ++ line? "Order" f.order? ++
    line "Projection" f.projection.text ++ line "Options" f.paging.toDocument.text

def Count.outline (c : Count) : String :=
  accepted c.coll ++ line "Filter" c.filter.text ++ line "Options" c.paging.toDocument.text

def Write.outline (w : Write) : String :=
  accepted w.coll ++ line "Filter" w.filter.text ++ line? "Command" w.command ++
    line "Options" w.options.text

/-- The outline of a plan. -/
def Plan.outline : Plan → String
  | .find f => f.outline
  | .count c => c.outline
  | .write w => w.outline

/-- The outline of a refusal. -/
def Refusal.outline (r : Refusal) : String :=
  title ++ line "Status" "REJECTED" ++ line "Error Code" r.code ++ line "Reason" r.message

end DocQuery
