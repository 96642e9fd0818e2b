import DocQuery.Proofs.Payloads
import DocQuery.Proofs.Registries
import DocQuery.Proofs.Substitution

/-! # Renaming the primary key

The store keeps the primary key of a model under its own identity key.  Every stage of planning
renames for itself, at the moment it writes a key: names in conditions and negations, order
items, selected items and, after the check of keys, the payload of an update.  Together this is
no more and no less than renaming the field in the query beforehand (`Query.renamed`) and
planning without a primary key. -/
namespace DocQuery

/-! ### Queries with a field renamed -/

/-- A name, with one name changed. -/
def renamedKey (pk key name : String) : String := if name = pk then key else name

/-- The substitution that renames a field in every place. -/
def renameField (pk key : String) : Substitution
  | _, .field name => .field (renamedKey pk key name)
  | _, leaf => leaf

/-- The query with a field renamed in its conditions, its orders, its selection and among the
fields that it updates.  Literals and parameters stay as they are. -/
def Query.renamed (q : Query) (pk key : String) : Query :=
  { q with
    conditions := q.conditions.map (·.substitute (renameField pk key) .condition)
    orders := q.orders.map (·.map fun item =>
      { item with expr := item.expr.substitute (renameField pk key) .name })
    selection := q.selection.map (·.map (·.substitute (renameField pk key) .selected))
    updates := q.updates.map fun g =>
      { g with fields := g.fields.map fun f => (renamedKey pk key f.1, f.2) } }

theorem Query.orderItems_renamed (q : Query) (pk key : String) :
    (q.renamed pk key).orderItems = q.orderItems.map fun item =>
      { item with expr := item.expr.substitute (renameField pk key) .name } :=
  List.map_flatten.symm

/-- A plan that does not record the primary key. -/
def Plan.withoutKey : Plan → Plan
  | .find f => .find { f with primaryKey := none }
  | .count c => .count { c with primaryKey := none }
  | .write w => .write w

/-! ### Scopes with and without a primary key -/

/-- The second scope has no primary key, and has the keys of the first under the new names. -/
structure Scope.Renames (s s' : Scope) (pk key : String) : Prop where
  params : s'.params = s.params
  primaryKey : s'.primaryKey = none
  key : ∀ name, s'.key (renamedKey pk key name) = s.key name

namespace Scope
variable {s s' : Scope} {pk key : String}

theorem renames_of_primaryKey (hpk : s.primaryKey = some pk) (hkey : s.identityKey = key)
    (hparams : s'.params = s.params) (hnone : s'.primaryKey = none) : s.Renames s' pk key := by
  refine ⟨hparams, hnone, fun name => ?_⟩
  have hplain : s'.key (renamedKey pk key name) = renamedKey pk key name := by
    unfold Scope.key
    rw [hnone, if_neg (Option.some_ne_none _).symm]
  rw [hplain]
  unfold renamedKey Scope.key
  rw [hpk, hkey]
  by_cases hname : name = pk
  · rw [if_pos hname, if_pos (congrArg some hname.symm)]
  · rw [if_neg hname, if_neg fun h => hname (Option.some.inj h).symm]

/-- Of all leaves only fields are renamed, and they are read in no other way. -/
theorem readsAlike_renameField (h : s.Renames s' pk key) {leaf : Expr} (hleaf : leaf.isLeaf = true) :
    s.ReadsAlike s' (renameField pk key) leaf := by
  obtain ⟨params, primaryKey, identityKey⟩ := s
  obtain ⟨params', primaryKey', identityKey'⟩ := s'
  obtain ⟨hparams, -, hkey⟩ := h
  obtain rfl : params' = params := hparams
  cases leaf with
  | field name =>
    refine ⟨fun clause => ?_, fun clause => ?_, ?_, fun clause => ?_, fun source => ?_, fun _ => rfl⟩
    · simp only [renameField, condition]
      exact alike_invalid clause _ _
    · simp only [renameField, field, hkey]
      exact .ok _
    · exact alike_refused_value _
    · exact (alike_refused_value _).inClause clause
    · simp only [renameField, output, hkey]
      exact .ok _
  | tagged _ _ | and _ | or _ | compare _ _ _ | isNil _ | not _ => cases hleaf
  | _ =>
    exact ⟨fun _ => alike_self _, fun _ => alike_self _, alike_encoded_self _,
      fun _ => alike_self _, fun _ => alike_self _, fun _ => rfl⟩

theorem follows_renameField (h : s.Renames s' pk key) (e : Expr) :
    s.Follows s' (renameField pk key) e :=
  fun _ _ hleaf => readsAlike_renameField h hleaf

/-! ### Reads and deletions -/

theorem paging_renamed (h : s.Renames s' pk key) (limit offset : Option Expr) :
    s'.paging limit offset = s.paging limit offset := by
  obtain ⟨params, primaryKey, identityKey⟩ := s
  obtain ⟨params', primaryKey', identityKey'⟩ := s'
  obtain rfl : params' = params := h.params
  rfl

theorem filter_renamed (h : s.Renames s' pk key) (q : Query) :
    Alike Refusal.SameCause (s.filter .filter q.conditions)
      (s'.filter .filter (q.renamed pk key).conditions) :=
  filter_substitute fun e _ => follows_renameField h e

theorem order_renamed (h : s.Renames s' pk key) (q : Query) :
    Alike Refusal.SameCause (s.order q.orderItems) (s'.order (q.renamed pk key).orderItems) := by
  rw [q.orderItems_renamed]
  exact order_substitute fun item _ => follows_renameField h item.expr

theorem find_renamed (h : s.Renames s' pk key) (q : Query) :
    Alike Refusal.SameCause ((fun f => { f with primaryKey := none }) <$> s.find q)
      (s'.find (q.renamed pk key)) := by
  unfold find
  simp only [map_bind]
  refine (alike_self q.check).bind fun _ => (filter_renamed h q).bind fun filter => ?_
  refine (order_renamed h q).bind fun order => ?_
  refine (selection_substitute fun e _ => follows_renameField h e).bind fun selected => ?_
  change Alike _ _ (s'.paging q.limit q.offset >>= _)
  rw [paging_renamed h, h.params, h.primaryKey]
  exact (alike_self _).bind fun paging => .ok _

theorem count_renamed (h : s.Renames s' pk key) (q : Query) :
    Alike Refusal.SameCause ((fun c => { c with primaryKey := none }) <$> s.count q)
      (s'.count (q.renamed pk key)) := by
  unfold count
  simp only [map_bind]
  refine (alike_self q.check).bind fun _ => (filter_renamed h q).bind fun filter => ?_
  change Alike _ _ (s'.paging q.limit q.offset >>= _)
  rw [paging_renamed h, h.primaryKey]
  exact (alike_self _).bind fun paging => .ok _

theorem deleteAll_renamed (h : s.Renames s' pk key) (q : Query) :
    Alike Refusal.SameCause (s.deleteAll q) (s'.deleteAll (q.renamed pk key)) :=
  (alike_self q.check).bind fun _ => (filter_renamed h q).bind fun _ => .ok _

/-! ### Updates -/

/-- Renaming before the check of keys gives the same pairs as renaming after it, provided that
the new key passes the check. -/
theorem updatePairs_renamed (h : s.Renames s' pk key) (hkey : isKey key = true)
    {fields : List (String × Expr)} {pairs : List (String × Value)}
    (hpairs : s.updatePairs fields = .ok pairs) :
    s'.updatePairs (fields.map fun f => (renamedKey pk key f.1, f.2)) = .ok pairs := by
  obtain ⟨plain, hplain, rfl⟩ := map_eq_ok.mp hpairs
  obtain ⟨hfields, hbad⟩ := encodeFields_eq_ok.mp (inClause_eq_ok.mp hplain)
  have hfields' : List.Forall₂ (fun f p => p.1 = f.1 ∧ f.2.value? s'.params = some p.2)
      (fields.map fun f => (renamedKey pk key f.1, f.2))
      (plain.map fun p => (renamedKey pk key p.1, p.2)) := by
    rw [List.forall₂_map_left_iff, List.forall₂_map_right_iff, h.params]
    exact hfields.imp fun f p hf => ⟨congrArg (renamedKey pk key) hf.1, hf.2⟩
  have hbad' : badKeyOfPairs? (plain.map fun p => (renamedKey pk key p.1, p.2)) = none := by
    rw [badKeyOfPairs?_eq_none, List.forall_mem_map]
    intro p hp
    obtain ⟨hpkey, hpvalue⟩ := badKeyOfPairs?_eq_none.mp hbad p hp
    refine ⟨?_, hpvalue⟩
    unfold renamedKey
    split
    · exact hkey
    · exact hpkey
  refine map_eq_ok.mpr ⟨_, inClause_eq_ok.mpr (encodeFields_eq_ok.mpr ⟨hfields', hbad'⟩), ?_⟩
  unfold rename
  rw [List.map_map]
  exact List.map_congr_left fun p _ => Prod.ext (h.key p.1) rfl

theorem updateCommand_renamed (h : s.Renames s' pk key) (hkey : isKey key = true) {q : Query}
    {command : Document} (hcommand : s.updateCommand q.updates = .ok command) :
    s'.updateCommand (q.renamed pk key).updates = .ok command := by
  obtain ⟨groups, hgroups, hcommand⟩ := bind_eq_ok.mp hcommand
  refine bind_eq_ok.mpr ⟨groups, mapM_eq_ok.mpr ?_, hcommand⟩
  change List.Forall₂ _ (q.updates.map _) groups
  rw [List.forall₂_map_left_iff]
  refine (mapM_eq_ok.mp hgroups).imp fun g pairs hg => ?_
  obtain ⟨plain, hplain, hg⟩ := bind_eq_ok.mp hg
  exact bind_eq_ok.mpr ⟨plain, updatePairs_renamed h hkey hplain, hg⟩

theorem updateAll_renamed (h : s.Renames s' pk key) (hkey : isKey key = true) {q : Query}
    {w : Write} (hw : s.updateAll q = .ok w) : s'.updateAll (q.renamed pk key) = .ok w := by
  obtain ⟨_, hcheck, hw⟩ := bind_eq_ok.mp hw
  obtain ⟨filter, hfilter, hw⟩ := bind_eq_ok.mp hw
  obtain ⟨command, hcommand, hw⟩ := bind_eq_ok.mp hw
  have hfilter' := (filter_renamed h q).eq_ok hfilter
  refine bind_eq_ok.mpr ⟨(), hcheck, bind_eq_ok.mpr ⟨filter, hfilter', ?_⟩⟩
  exact bind_eq_ok.mpr ⟨command, updateCommand_renamed h hkey hcommand, hw⟩

end Scope

/-! ### Plans -/

/-- **Renaming the primary key is renaming a field of the query.**  For finds, counts and
deletions, planning a query whose model has a primary key ends alike with planning the renamed
query without one: with the same plan but for the recorded key, or with refusals that differ at
most in the names they show.  An update that can be planned gives the same plan for the renamed
query, provided that the store takes the identity key as a key of a payload. -/
theorem Planner.plan_renamed {p p' : Planner} {q : Query} {pk : String} (params : List Value)
    (hpk : p.primaryKey? q.source.model = some pk)
    (hnone : p'.primaryKey? q.source.model = none) :
    (∀ make ∈ [Task.find, Task.count, Task.deleteAll],
      Alike Refusal.SameCause (Plan.withoutKey <$> p.plan (make q params))
        (p'.plan (make (q.renamed pk p.settings.identityKey) params))) ∧
    (isKey p.settings.identityKey = true → ∀ plan, p.plan (.updateAll q params) = .ok plan →
      p'.plan (.updateAll (q.renamed pk p.settings.identityKey) params) = .ok plan) := by
  have h : (p.scope q params).Renames
      (p'.scope (q.renamed pk p.settings.identityKey) params) pk p.settings.identityKey :=
    Scope.renames_of_primaryKey ((p.primaryKey_scope q params).trans hpk) rfl rfl
      ((p'.primaryKey_scope _ params).trans hnone)
  refine ⟨?_, fun hkey plan hplan => ?_⟩
  · simp only [List.forall_mem_cons, List.not_mem_nil, false_imp_iff, implies_true, and_true]
    refine ⟨?_, ?_, ?_⟩
    · have hfind := (Scope.find_renamed h q).map Plan.find
      rw [Functor.map_map] at hfind
      simp only [plan, Functor.map_map]
      exact hfind
    · have hcount := (Scope.count_renamed h q).map Plan.count
      rw [Functor.map_map] at hcount
      simp only [plan, Functor.map_map]
      exact hcount
    · have hdelete := (Scope.deleteAll_renamed h q).map Plan.write
      simp only [plan, Functor.map_map]
      exact hdelete
  · obtain ⟨w, hw, rfl⟩ := map_eq_ok.mp hplan
    exact map_eq_ok.mpr ⟨w, Scope.updateAll_renamed h hkey hw, rfl⟩

/-- The primary key in a negated membership, in an alternative beside a literal that has a key
of the same name, in an order, in a selection and in an update. -/
theorem Planner.plan_renamed_in_all_clauses :
    ∃ (p p' : Planner) (q : Query) (params : List Value) (found updated : Plan),
      p.primaryKey? q.source.model = some "id" ∧ p'.primaryKey? q.source.model = none ∧
      p.plan (.find q params) = .ok found ∧
      p'.plan (.find (q.renamed "id" "_id") params) = .ok found.withoutKey ∧
      p.plan (.updateAll q params) = .ok updated ∧
      p'.plan (.updateAll (q.renamed "id" "_id") params) = .ok updated := by
  let p : Planner := { registry := [("User", "id")] }
  let q : Query :=
    { source := { coll := "users", model := some "User" }
      conditions := [.not (.compare .isIn (.field "id") (.paramRange 0 2)),
        .or [.isNil (.field "id"),
          .compare .eq (.field "old") (.literal (.document (.single "id" (.int 1))))]]
      orders := [[{ direction := .descending, expr := .field "id" }]]
      selection := some [.field "id", .field "name"]
      updates := [{ op := .set, fields := [("id", .param 1), ("name", .literal .null)] }] }
  let params : List Value := [.int 1, .int 2]
  have hpk : p.primaryKey? q.source.model = some "id" := by decide
  have hnone : ({} : Planner).primaryKey? q.source.model = none := rfl
  obtain ⟨found, hfound⟩ : ∃ plan, p.plan (.find q params) = .ok plan := ⟨_, rfl⟩
  obtain ⟨updated, hupdated⟩ : ∃ plan, p.plan (.updateAll q params) = .ok plan := ⟨_, rfl⟩
  obtain ⟨hreads, hupdate⟩ := plan_renamed params hpk hnone
  refine ⟨p, {}, q, params, found, updated, hpk, hnone, hfound, ?_, hupdated, ?_⟩
  · exact (hreads Task.find (by simp)).eq_ok (map_eq_ok.mpr ⟨found, hfound, rfl⟩)
  · exact hupdate (by decide) updated hupdated

end DocQuery
