import DocQuery.Proofs.Payloads
import DocQuery.Proofs.FilterRules
import DocQuery.Proofs.Registries
import DocQuery.Request.Basic

/-! # Writing one record and writing all that match

A record can be updated or deleted by the pairs that identify it, or by a query whose
conditions ask for these pairs one by one.  The two go different ways: the pairs are checked
like a payload and then renamed, the conditions are planned as a filter; new values are given
as they are, or as literals in a group of updates.  Both address the same records and write the
same fields, and where the pairs that identify the record are accepted, both fail alike. -/
namespace DocQuery

/-- The query for records that have the given pairs. -/
def Query.matchingPairs (source : Source) (pairs : List (String × Value)) : Query where
  source := source
  conditions := pairs.map fun p => .compare .eq (.field p.1) (.literal p.2)

/-- The updates that set the given pairs. -/
def UpdateGroup.setting (pairs : List (String × Value)) : UpdateGroup where
  op := .set
  fields := pairs.map fun p => (p.1, .literal p.2)

/-- The query that sets the given values in records that have the given pairs. -/
def Query.settingPairs (source : Source) (pairs values : List (String × Value)) : Query :=
  { Query.matchingPairs source pairs with updates := [.setting values] }

/-- Literals are taken as they are, so that their keys are all that is checked. -/
theorem encodeFields_setting (params : List Value) (pairs : List (String × Value)) :
    encodeFields params (UpdateGroup.setting pairs).fields = encodePairs pairs := by
  have hvalues : List.Forall₂ (fun (f : String × Expr) p =>
      (do pure (f.1, ← f.2.eval params) : Encoded (String × Value)) = .ok p)
      (UpdateGroup.setting pairs).fields pairs := by
    rw [UpdateGroup.setting, List.forall₂_map_left_iff]
    exact List.forall₂_same.mpr fun p _ => rfl
  change (UpdateGroup.setting pairs).fields.mapM _ >>= encodePairs = _
  rw [mapM_eq_ok.mpr hvalues]
  rfl

namespace Scope
variable {s : Scope}

/-- Conditions on pairs are always planned, to the pairs with the primary key renamed. -/
theorem filter_matchingPairs (clause : Clause) (source : Source) (pairs : List (String × Value)) :
    s.filter clause (Query.matchingPairs source pairs).conditions =
      .ok (.ofPairs (s.rename pairs)) := by
  refine map_eq_ok.mpr ⟨s.rename pairs, mapM_eq_ok.mpr ?_, rfl⟩
  rw [Query.matchingPairs, rename, List.forall₂_map_left_iff, List.forall₂_map_right_iff]
  exact List.forall₂_same.mpr fun p _ => condition_compare s clause .eq _ _

theorem record_eq_ok {clause : Clause} {pairs : List (String × Value)} {d : Document} :
    s.record clause pairs = .ok d ↔
      badKeyOfPairs? pairs = none ∧ d = .ofPairs (s.rename pairs) := by
  unfold record
  rw [map_eq_ok]
  constructor
  · rintro ⟨pairs', hpairs, rfl⟩
    obtain ⟨hbad, rfl⟩ := encodePairs_eq_ok.mp (inClause_eq_ok.mp hpairs)
    exact ⟨hbad, rfl⟩
  · rintro ⟨hbad, rfl⟩
    exact ⟨pairs, inClause_eq_ok.mpr (encodePairs_eq_ok.mpr ⟨hbad, rfl⟩), rfl⟩

/-- A single group that sets pairs makes the command that sets them as a record. -/
theorem updateCommand_setting (pairs : List (String × Value)) :
    s.updateCommand [.setting pairs] = Changes.setCommand <$> s.record .update pairs := by
  unfold updateCommand
  rw [List.mapM_cons, List.mapM_nil]
  unfold updatePairs record
  rw [encodeFields_setting]
  cases (encodePairs pairs).inClause .update with
  | error e => rfl
  | ok pairs' => rfl

/-! ### Plans of writes -/

/-- The update of a record, once the pairs that identify it are accepted. -/
theorem update_eq_map (coll : String) (pairs : List (String × Value))
    {filter : List (String × Value)} {accepted : Document}
    (h : s.record .filter filter = .ok accepted) :
    s.update coll pairs filter = (fun record =>
      { coll, filter := accepted, command := some (Changes.setCommand record), multi := false }) <$>
        s.record .update pairs := by
  unfold update
  rw [h]
  cases s.record .update pairs <;> rfl

/-- The update of all that have the pairs. -/
theorem updateAll_eq_map (source : Source) (filter values : List (String × Value)) :
    s.updateAll (.settingPairs source filter values) = (fun record =>
      { coll := source.coll, filter := .ofPairs (s.rename filter)
        command := some (Changes.setCommand record), multi := true }) <$>
        s.record .update values := by
  have hcheck : (Query.settingPairs source filter values).check = .ok () := rfl
  have hfilter : s.filter .filter (Query.settingPairs source filter values).conditions = _ :=
    filter_matchingPairs .filter source filter
  have hcommand : s.updateCommand (Query.settingPairs source filter values).updates = _ :=
    updateCommand_setting values
  unfold updateAll
  rw [hcheck, hfilter, hcommand]
  cases s.record .update values <;> rfl

theorem deleteAll_matchingPairs (source : Source) (filter : List (String × Value)) :
    s.deleteAll (Query.matchingPairs source filter) =
      .ok { coll := source.coll, filter := .ofPairs (s.rename filter), command := none
            multi := true } := by
  refine bind_eq_ok.mpr ⟨(), rfl, bind_eq_ok.mpr ⟨_, ?_, rfl⟩⟩
  exact filter_matchingPairs .filter source filter

/-- The command of a planned update. -/
theorem command_of_update {coll : String} {pairs filter : List (String × Value)} {w : Write}
    (h : s.update coll pairs filter = .ok w) :
    ∃ record, s.record .update pairs = .ok record ∧
      w.command = some (Changes.setCommand record) := by
  obtain ⟨_, -, h⟩ := bind_eq_ok.mp h
  obtain ⟨record, hrecord, h⟩ := bind_eq_ok.mp h
  obtain rfl := pure_eq_ok.mp h
  exact ⟨record, hrecord, rfl⟩

/-- The command of a planned bulk update that sets pairs. -/
theorem command_of_updateAll {q : Query} {pairs : List (String × Value)} {u : Write}
    (hupdates : q.updates = [.setting pairs]) (h : s.updateAll q = .ok u) :
    ∃ record, s.record .update pairs = .ok record ∧
      u.command = some (Changes.setCommand record) := by
  obtain ⟨_, -, h⟩ := bind_eq_ok.mp h
  obtain ⟨_, -, h⟩ := bind_eq_ok.mp h
  obtain ⟨command, hcommand, h⟩ := bind_eq_ok.mp h
  obtain rfl := pure_eq_ok.mp h
  rw [hupdates, updateCommand_setting] at hcommand
  obtain ⟨record, hrecord, rfl⟩ := map_eq_ok.mp hcommand
  exact ⟨record, hrecord, rfl⟩

end Scope

/-- A query has the scope of a single record of its model, as far as records go. -/
theorem Planner.record_scope (p : Planner) (q : Query) (params : List Value) (clause : Clause)
    (pairs : List (String × Value)) :
    (p.scope q params).record clause pairs =
      (p.recordScope (p.primaryKey? q.source.model)).record clause pairs := by
  rw [p.scope_eq]
  rfl

/-- **Writes of one record agree with bulk writes.**  If a deletion is planned, so is the
deletion of all that have the pairs of its filter, with the same filter.  A planned update and a
planned bulk update that sets the same pairs have the same command.  Where the pairs that
identify the record are accepted, an update and the bulk update of all that have them fail
alike. -/
theorem Planner.record_and_bulk_writes_agree (p : Planner) (coll : String)
    (model : Option String) (values filter : Document) (params : List Value) :
    (∀ plan, p.answer (.delete coll model filter) = .ok plan →
      ∃ w, plan = .write w ∧
        p.answer (.deleteAll (.matchingPairs { coll, model } filter.pairs) params) =
          .ok (.write { w with multi := true })) ∧
    (∀ q w u, q.source.model = model → q.updates = [.setting values.pairs] →
      p.answer (.update coll model values filter) = .ok (.write w) →
      p.answer (.updateAll q params) = .ok (.write u) →
      ∃ record, w.command = some (Changes.setCommand record) ∧ u.command = w.command) ∧
    ∀ accepted, (p.recordScope (p.primaryKey? model)).record .filter filter.pairs = .ok accepted →
      ∀ failure, p.answer (.update coll model values filter) = .error failure ↔
        p.answer (.updateAll (.settingPairs { coll, model } filter.pairs values.pairs) params) =
          .error failure := by
  refine ⟨fun plan hplan => ?_, fun q w u hmodel hupdates hw hu => ?_,
    fun accepted haccepted failure => ?_⟩
  · obtain ⟨w, hw, rfl⟩ := map_eq_ok.mp hplan
    obtain ⟨d, hd, hw⟩ := bind_eq_ok.mp hw
    obtain rfl := pure_eq_ok.mp hw
    obtain ⟨-, rfl⟩ := Scope.record_eq_ok.mp hd
    refine ⟨_, rfl, map_eq_ok.mpr ⟨_, Scope.deleteAll_matchingPairs { coll, model } _, ?_⟩⟩
    rw [p.scope_eq]
    rfl
  · subst hmodel
    obtain ⟨w', hw', h⟩ := map_eq_ok.mp hw
    obtain rfl : w' = w := Plan.write.inj h
    obtain ⟨u', hu', h⟩ := map_eq_ok.mp hu
    obtain rfl : u' = u := Plan.write.inj h
    obtain ⟨record, hrecord, hcommand⟩ := Scope.command_of_update hw'
    obtain ⟨record', hrecord', hcommand'⟩ := Scope.command_of_updateAll hupdates hu'
    rw [p.record_scope, hrecord] at hrecord'
    cases hrecord'
    exact ⟨record, hcommand, hcommand'.trans hcommand.symm⟩
  · simp only [answer, Request.task, plan, map_eq_error]
    rw [Scope.update_eq_map coll values.pairs haccepted, Scope.updateAll_eq_map, map_eq_error,
      map_eq_error, p.record_scope]
    rfl

/-- A record that is identified by its primary key, deleted by both ways, and updated by neither,
since a key deep in the new values is bad. -/
theorem Planner.record_and_bulk_writes_agree_on_bad_key :
    ∃ (p : Planner) (source : Source) (values filter : Document) (w : Write)
      (failure : Failure Refusal), w.filter.keys = ["_id"] ∧
      p.answer (.delete source.coll source.model filter) = .ok (.write w) ∧
      p.answer (.deleteAll (.matchingPairs source filter.pairs) []) =
        .ok (.write { w with multi := true }) ∧
      p.answer (.update source.coll source.model values filter) = .error failure ∧
      p.answer (.updateAll (.settingPairs source filter.pairs values.pairs) []) =
        .error failure := by
  let p : Planner := { registry := [("User", "id")] }
  let source : Source := { coll := "users", model := some "User" }
  let filter : Document := .single "id" (.int 7)
  let values : Document := .single "tags" (.array [.document (.single "a.b" .null)])
  have h := p.record_and_bulk_writes_agree source.coll source.model values filter []
  obtain ⟨w, hkeys, hdelete⟩ : ∃ w : Write, w.filter.keys = ["_id"] ∧
    p.answer (.delete source.coll source.model filter) = .ok (.write w) := ⟨_, by decide, rfl⟩
  obtain ⟨failure, hupdate⟩ : ∃ failure,
    p.answer (.update source.coll source.model values filter) = .error failure := ⟨_, rfl⟩
  obtain ⟨_, hw, hdeleteAll⟩ := h.1 _ hdelete
  cases hw
  exact ⟨p, source, values, filter, w, failure, hkeys, hdelete, hdeleteAll, hupdate,
    (h.2.2 _ rfl failure).mp hupdate⟩

end DocQuery
