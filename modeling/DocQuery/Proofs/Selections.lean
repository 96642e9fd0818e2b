import DocQuery.Proofs.FindComposition

/-! # Selections and what they ask of the store

A selection is planned into two things that are used far from each other: the keys that the store
is asked to send, and for each selected item a note where to find it in what was sent.  A row is put
together from the notes by position, so they have to match the items one by one, and every key that
a note refers to has to be among those asked for.

`Scope.Delivers` says where an item comes from without planning it, and `Scope.Aligned` what the
notes and the keys have to do with each other.  Every selection that can be planned is aligned; one
that cannot fails as its first item that has no place to come from (`Scope.outputs_aligned`). -/
namespace DocQuery

/-- The name of an expression that is a field. -/
def Expr.name? : Expr → Option String
  | .field name => some name
  | _ => none

theorem Expr.name?_eq_some {e : Expr} {name : String} : e.name? = some name ↔ e = .field name := by
  cases e <;> simp [name?]

namespace Scope

/-- Where a selected item comes from: the whole record, a key of it, or the query itself. -/
inductive Delivers (s : Scope) (source : Source) : Expr → Output → Prop
  | record : Delivers s source .source (.record source)
  | key (name : String) : Delivers s source (.field name) (.key (s.key name))
  | value {e : Expr} {v : Value} (resolved : e.value? s.params = some v) :
      Delivers s source e (.value v)

/-- The item comes from somewhere. -/
def Selectable (s : Scope) (e : Expr) : Prop :=
  e = .source ∨ (∃ name, e = .field name) ∨ ∃ v, e.value? s.params = some v

/-- The key of a field, as the store is asked for it. -/
def asked (s : Scope) (name : String) : String × Value := (s.key name, .bool true)

/-- What the notes of a selection and the document that the store is asked with have to do with
its items, and with each other. -/
structure Aligned (s : Scope) (source : Source) (items : List Expr) (outputs : List Output)
    (projection : Document) : Prop where
  /-- There is one note for each item. -/
  length : outputs.length = items.length
  /-- The note at each position says where the item at this position comes from. -/
  delivers : List.Forall₂ (s.Delivers source) items outputs
  /-- Nothing in particular is asked for exactly if the whole record is selected or no field. -/
  empty_iff : projection = .empty ↔ .source ∈ items ∨ ∀ name, .field name ∉ items
  /-- What is asked for are the selected fields in order, repeats included. -/
  pairs : projection ≠ .empty → projection.pairs = (items.filterMap Expr.name?).map s.asked
  /-- Every key that is noted is asked for, if anything is. -/
  covered : ∀ key, .key key ∈ outputs → (key, .bool true) ∈ projection.pairs ∨ projection = .empty

/-! ### One item -/

variable {s : Scope} {source : Source}

theorem output_eq_ok {e : Expr} {o : Output} :
    s.output source e = .ok o ↔ s.Delivers source e o := by
  constructor
  · intro h
    cases e with
    | source =>
      cases h
      exact .record
    | field name =>
      cases h
      exact .key name
    | _ =>
      obtain ⟨v, hv, rfl⟩ := map_eq_ok.mp h
      exact .value (value_eq_ok.mp hv)
  · rintro (_ | name | resolved)
    · rfl
    · rfl
    · cases e with
      | source => cases resolved
      | field name => cases resolved
      | _ => exact map_eq_ok.mpr ⟨_, value_eq_ok.mpr resolved, rfl⟩

theorem output_accepted_iff {e : Expr} :
    (∃ o, s.output source e = .ok o) ↔ s.Selectable e := by
  constructor
  · rintro ⟨o, ho⟩
    rcases output_eq_ok.mp ho with _ | name | resolved
    · exact .inl rfl
    · exact .inr (.inl ⟨name, rfl⟩)
    · exact .inr (.inr ⟨_, resolved⟩)
  · rintro (rfl | ⟨name, rfl⟩ | ⟨v, hv⟩)
    · exact ⟨_, rfl⟩
    · exact ⟨_, rfl⟩
    · exact ⟨.value v, output_eq_ok.mpr (.value hv)⟩

/-- An item that comes from nowhere fails as its value does. -/
theorem output_eq_error {e : Expr} {failure : Failure Refusal} :
    s.output source e = .error failure ↔
      ¬ s.Selectable e ∧ s.value .selection e = .error failure := by
  constructor
  · intro h
    refine ⟨fun hselectable => ?_, ?_⟩
    · obtain ⟨o, ho⟩ : ∃ o, s.output source e = .ok o := output_accepted_iff.mpr hselectable
      rw [h] at ho
      cases ho
    · cases e with
      | source => cases h
      | field name => cases h
      | _ => exact map_eq_error.mp h
  · rintro ⟨hselectable, h⟩
    cases e with
    | source => exact absurd (.inl rfl) hselectable
    | field name => exact absurd (.inr (.inl ⟨name, rfl⟩)) hselectable
    | _ => exact map_eq_error.mpr h

/-! ### All items -/

theorem selection_eq_ok {selection : Option (List Expr)} {selected : Selected} :
    s.selection source selection = .ok selected ↔
      List.Forall₂ (s.Delivers source) (selection.getD []) selected.outputs ∧
        selected = .ofOutputs selected.outputs := by
  simp only [selection_eq, outputs, map_eq_ok, mapM_eq_ok, output_eq_ok]
  constructor
  · rintro ⟨outputs, houtputs, rfl⟩
    exact ⟨houtputs, rfl⟩
  · rintro ⟨houtputs, hselected⟩
    exact ⟨selected.outputs, houtputs, hselected.symm⟩

theorem selection_accepted_iff {selection : Option (List Expr)} :
    (∃ selected, s.selection source selection = .ok selected) ↔
      ∀ e ∈ selection.getD [], s.Selectable e := by
  simp only [selection_eq, exists_map_eq_ok, outputs, exists_mapM_eq_ok, output_accepted_iff]

/-- A selection fails as the first of its items that comes from nowhere. -/
theorem selection_eq_error {selection : Option (List Expr)} {failure : Failure Refusal} :
    s.selection source selection = .error failure ↔
      ∃ before e after, selection.getD [] = before ++ e :: after ∧
        (∀ earlier ∈ before, s.Selectable earlier) ∧ ¬ s.Selectable e ∧
        s.value .selection e = .error failure := by
  simp only [selection_eq, map_eq_error, outputs, mapM_eq_error, output_accepted_iff,
    output_eq_error]

section Notes
variable {items : List Expr} {outputs : List Output}

/-- A record is noted exactly where the whole record is selected. -/
theorem any_isRecord_iff (h : List.Forall₂ (s.Delivers source) items outputs) :
    outputs.any Output.isRecord = true ↔ .source ∈ items := by
  induction h with
  | nil => simp
  | @cons e o items outputs heo _ ih =>
    rw [List.any_cons, Bool.or_eq_true, ih, List.mem_cons]
    refine or_congr_left ?_
    cases heo with
    | record => exact iff_of_true rfl rfl
    | key name => exact iff_of_false Bool.false_ne_true (by rintro ⟨⟩)
    | value resolved =>
      -- the whole record has no value, so it is never taken for one
      refine iff_of_false Bool.false_ne_true ?_
      rintro rfl
      cases resolved

/-- The notes ask for the selected fields, in the order of the items. -/
theorem flatMap_included (h : List.Forall₂ (s.Delivers source) items outputs) :
    outputs.flatMap Output.included = (items.filterMap Expr.name?).map s.asked := by
  induction h with
  | nil => rfl
  | @cons e o items outputs heo _ ih =>
    rw [List.flatMap_cons, ih]
    cases heo with
    | record => rfl
    | key name => rfl
    | value resolved =>
      have hname : e.name? = none := by
        cases e with
        | field name => cases resolved
        | _ => rfl
      rw [List.filterMap_cons, hname]
      rfl

theorem projection_of_record (h : List.Forall₂ (s.Delivers source) items outputs)
    (hrecord : .source ∈ items) : (Selected.ofOutputs outputs).projection = .empty := by
  rw [Selected.projection_ofOutputs, if_pos ((any_isRecord_iff h).mpr hrecord)]

theorem projection_of_no_record (h : List.Forall₂ (s.Delivers source) items outputs)
    (hrecord : .source ∉ items) :
    (Selected.ofOutputs outputs).projection =
      .ofPairs ((items.filterMap Expr.name?).map s.asked) := by
  rw [Selected.projection_ofOutputs, if_neg (mt (any_isRecord_iff h).mp hrecord),
    flatMap_included h]

/-- A noted key is the key of a selected field. -/
theorem exists_field_of_key (h : List.Forall₂ (s.Delivers source) items outputs) {key : String}
    (hkey : .key key ∈ outputs) : ∃ name, .field name ∈ items ∧ key = s.key name := by
  obtain ⟨e, he, hkey⟩ := exists_mem_of_forall₂ h hkey
  cases hkey with
  | key name => exact ⟨name, he, rfl⟩

theorem aligned_of_delivers (h : List.Forall₂ (s.Delivers source) items outputs) :
    s.Aligned source items outputs (Selected.ofOutputs outputs).projection := by
  have hfield {name : String} : .field name ∈ items ↔ name ∈ items.filterMap Expr.name? := by
    rw [List.mem_filterMap]
    simp only [Expr.name?_eq_some, exists_eq_right]
  constructor
  case length => exact h.length_eq.symm
  case delivers => exact h
  case empty_iff =>
    by_cases hrecord : .source ∈ items
    · exact iff_of_true (projection_of_record h hrecord) (.inl hrecord)
    · rw [projection_of_no_record h hrecord, or_iff_right hrecord]
      simp only [hfield]
      cases items.filterMap Expr.name? with
      | nil => exact iff_of_true rfl fun _ => List.not_mem_nil
      | cons name names =>
        refine iff_of_false (by rintro ⟨⟩) fun hnone => ?_
        exact hnone name List.mem_cons_self
  case pairs =>
    intro hne
    by_cases hrecord : .source ∈ items
    · exact absurd (projection_of_record h hrecord) hne
    · rw [projection_of_no_record h hrecord, Document.pairs_ofPairs]
  case covered =>
    intro key hkey
    by_cases hrecord : .source ∈ items
    · exact .inr (projection_of_record h hrecord)
    · obtain ⟨name, hname, rfl⟩ := exists_field_of_key h hkey
      rw [projection_of_no_record h hrecord, Document.pairs_ofPairs]
      exact .inl (List.mem_map_of_mem (hfield.mp hname))

end Notes

theorem aligned_of_selection {selection : Option (List Expr)} {selected : Selected}
    (h : s.selection source selection = .ok selected) :
    s.Aligned source (selection.getD []) selected.outputs selected.projection := by
  obtain ⟨hdelivers, hselected⟩ := selection_eq_ok.mp h
  rw [hselected]
  exact aligned_of_delivers hdelivers

/-- **Notes, keys and items of a selection are aligned.**  A selection that can be planned is
aligned with its notes and with what the store is asked for, and so is the selection of every
planned find.  A selection fails exactly if some item comes from nowhere, and then as the first such
item fails. -/
theorem outputs_aligned (s : Scope) (source : Source) (selection : Option (List Expr)) :
    (∀ selected, s.selection source selection = .ok selected →
      s.Aligned source (selection.getD []) selected.outputs selected.projection) ∧
    ((∃ failure, s.selection source selection = .error failure) ↔
      ∃ e ∈ selection.getD [], ¬ s.Selectable e) ∧
    (∀ failure, s.selection source selection = .error failure ↔
      ∃ before e after, selection.getD [] = before ++ e :: after ∧
        (∀ earlier ∈ before, s.Selectable earlier) ∧ ¬ s.Selectable e ∧
        s.value .selection e = .error failure) ∧
    ∀ q f, s.find q = .ok f →
      s.Aligned q.source (q.selection.getD []) f.outputs f.projection := by
  refine ⟨fun _ => aligned_of_selection, ?_, fun _ => selection_eq_error, ?_⟩
  · have hfails : (∃ failure, s.selection source selection = .error failure) ↔
        ¬ ∃ selected, s.selection source selection = .ok selected := by
      cases s.selection source selection <;> simp
    rw [hfails, selection_accepted_iff]
    simp only [not_forall, exists_prop]
  · intro q f h
    obtain ⟨-, -, ⟨selected, hselected, houtputs, hprojection⟩, -⟩ := stages_of_find h
    rw [houtputs, hprojection]
    exact aligned_of_selection hselected

/-- The primary key twice, a cast between them: the store is asked for two pairs, and the notes keep
the place of the value.  With the whole record selected last it is asked for nothing in particular,
and with a condition among the items there is no plan. -/
theorem outputs_aligned_of_repeats :
    ∃ (s : Scope) (source : Source) (items : List Expr) (selected all : Selected)
      (failure : Failure Refusal),
      s.selection source (some items) = .ok selected ∧
      s.Aligned source items selected.outputs selected.projection ∧
      selected.projection.pairs = [("_id", .bool true), ("_id", .bool true)] ∧
      s.selection source (some (items ++ [.source])) = .ok all ∧ all.projection = .empty ∧
      s.selection source (some (items ++ [.isNil (.field "age")])) = .error failure := by
  let s : Scope := { params := [.int 7], primaryKey := some "id", identityKey := "_id" }
  let source : Source := { coll := "users", model := some "User" }
  let items : List Expr := [.field "id", .tagged (.param 0) .float, .field "id"]
  obtain ⟨selected, hselected⟩ : ∃ selected, s.selection source (some items) = .ok selected :=
    ⟨_, rfl⟩
  obtain ⟨all, hall⟩ : ∃ all, s.selection source (some (items ++ [.source])) = .ok all := ⟨_, rfl⟩
  have haligned := (outputs_aligned s source (some items)).1 selected hselected
  have hrecord := (outputs_aligned s source (some (items ++ [.source]))).1 all hall
  obtain ⟨failure, hfailure⟩ :=
    (outputs_aligned s source (some (items ++ [.isNil (.field "age")]))).2.1.mpr
      ⟨.isNil (.field "age"), by simp, by simp [Selectable, Expr.value?]⟩
  refine ⟨s, source, items, selected, all, failure, hselected, haligned, ?_, hall, ?_, hfailure⟩
  · refine haligned.pairs fun hempty => ?_
    rcases haligned.empty_iff.mp hempty with hsource | hnone
    · simp [items] at hsource
    · exact hnone "id" List.mem_cons_self
  · exact hrecord.empty_iff.mpr (.inl (List.mem_append_right items List.mem_cons_self))

end Scope
end DocQuery
