import DocQuery.Plan.Read
import DocQuery.Proofs.Outcomes

/-! # Selections, item by item

The planner goes through a selection once, and puts together what the store is asked for and the
notes of the items side by side (`Scope.select`).  Here every item has its note for itself
(`Scope.output`), and what the store is asked for is read off the notes (`Selected.ofOutputs`).
Both come to the same (`Scope.selection_eq`), so what holds of each item carries over to the
selection. -/
namespace DocQuery

namespace Output

def isRecord : Output → Bool
  | .record _ => true
  | .value _ | .key _ => false

/-- The pairs that make the store send what an item needs. -/
def included : Output → List (String × Value)
  | .key name => [(name, .bool true)]
  | .value _ | .record _ => []

end Output

namespace Selected

/-- What is selected after items with these notes. -/
def append (selected : Selected) (outputs : List Output) : Selected where
  included := selected.included ++ outputs.flatMap Output.included
  whole := selected.whole || outputs.any Output.isRecord
  outputs := selected.outputs ++ outputs

/-- What is selected by items with these notes. -/
def ofOutputs (outputs : List Output) : Selected := append {} outputs

@[simp] theorem append_nil (selected : Selected) : selected.append [] = selected := by
  simp [append]

theorem append_singleton (selected : Selected) (o : Output) :
    selected.append [o] =
      { included := selected.included ++ o.included
        whole := selected.whole || o.isRecord
        outputs := selected.outputs ++ [o] } := by
  simp [append]

theorem append_append (selected : Selected) (first second : List Output) :
    (selected.append first).append second = selected.append (first ++ second) := by
  simp [append, List.append_assoc, Bool.or_assoc]

theorem projection_ofOutputs (outputs : List Output) :
    (ofOutputs outputs).projection =
      if outputs.any Output.isRecord then .empty
      else .ofPairs (outputs.flatMap Output.included) :=
  rfl

end Selected

namespace Scope

/-- Where a selected item comes from. -/
def output (s : Scope) (source : Source) : Expr → Planned Output
  | .source => .ok (.record source)
  | .field name => .ok (.key (s.key name))
  | e => .value <$> s.value .selection e

/-- Where the items of a selection come from, one by one. -/
def outputs (s : Scope) (source : Source) (selection : Option (List Expr)) :
    Planned (List Output) :=
  (selection.getD []).mapM (s.output source)

variable (s : Scope) (source : Source)

/-- One round of the loop adds the note of its item. -/
theorem select_eq (selected : Selected) (e : Expr) :
    s.select source selected e = (fun o => selected.append [o]) <$> s.output source e := by
  simp only [Selected.append_singleton]
  cases e with
  | source =>
    change Except.ok _ = Except.ok _
    simp [Output.included, Output.isRecord]
  | field name =>
    change Except.ok _ = Except.ok _
    simp [Output.included, Output.isRecord]
  | _ => simp [select, output, Output.included, Output.isRecord]

/-- All rounds add the notes of all items, after what is there already. -/
theorem foldlM_select (items : List Expr) (selected : Selected) :
    items.foldlM (s.select source) selected = selected.append <$> items.mapM (s.output source) := by
  induction items generalizing selected with
  | nil =>
    rw [List.foldlM_nil, List.mapM_nil, map_pure, Selected.append_nil]
  | cons e items ih =>
    simp only [List.foldlM_cons, List.mapM_cons, select_eq, ih, Selected.append_append,
      map_eq_pure_bind, bind_assoc, pure_bind, List.singleton_append]

theorem selection_eq (selection : Option (List Expr)) :
    s.selection source selection = Selected.ofOutputs <$> s.outputs source selection := by
  cases selection with
  | none => rfl
  | some items => exact s.foldlM_select source items {}

end Scope
end DocQuery
