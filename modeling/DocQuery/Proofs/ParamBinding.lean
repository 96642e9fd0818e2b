import DocQuery.Proofs.ParamBounds
import DocQuery.Proofs.Substitution

/-! # Binding parameters is substitution

A parameter in the place of a value stands for the value given, and a range of parameters right
of `in` for the array of the values given.  So it makes no difference whether parameters are
read while a query is planned, or written into the query as literals beforehand
(`Query.bound`).  Only a parameter in the place of a condition stays: there it is code that the
store runs, and a literal is no condition. -/
namespace DocQuery

/-! ### Queries with their parameters written in -/

/-- The literal for a parameter. -/
def boundParam (params : List Value) (index : UInt64) : Expr :=
  match params[index.toNat]? with
  | some v => .literal v
  | none => .param index

/-- The substitution that writes parameters in where values are read. -/
def bindParams (params : List Value) : Substitution
  | .value, .param index | .members, .param index | .selected, .param index =>
      boundParam params index
  | .members, .paramRange start count =>
      .literal (.array ((params.drop start.toNat).take count.toNat))
  | _, leaf => leaf

/-- An expression with its parameters written in. -/
def Expr.bound (params : List Value) (place : Place) (e : Expr) : Expr :=
  e.substitute (bindParams params) place

/-- A query with its parameters written in, in all of its clauses. -/
def Query.bound (q : Query) (params : List Value) : Query :=
  { q with
    conditions := q.conditions.map (.bound params .condition)
    orders := q.orders.map (·.map fun item => { item with expr := item.expr.bound params .name })
    selection := q.selection.map (·.map (.bound params .selected))
    limit := q.limit.map (.bound params .value)
    offset := q.offset.map (.bound params .value)
    updates := q.updates.map fun g =>
      { g with fields := g.fields.map fun f => (f.1, f.2.bound params .value) }
    distinct := q.distinct.map (.bound params .condition)
    joins := q.joins.map fun j => { j with on := j.on.bound params .condition }
    groups := q.groups.map (.bound params .condition)
    havings := q.havings.map (.bound params .condition) }

theorem Query.orderItems_bound (q : Query) (params : List Value) :
    (q.bound params).orderItems = q.orderItems.map fun item =>
      { item with expr := item.expr.bound params .name } :=
  List.map_flatten.symm

theorem Query.check_bound (q : Query) (params : List Value) :
    (q.bound params).check = q.check := by
  simp only [check, unsupported?, bound, Option.isSome_map, List.isEmpty_map]

/-! ### Reading what was written in -/

namespace Scope
variable {s : Scope}

/-- Parameters within bounds and the literals written in for them are read alike. -/
theorem readsAlike_bindParams (hsize : s.params.length < 2 ^ 64) {leaf : Expr}
    (hleaf : leaf.isLeaf = true) (hfits : leaf.Fits s.params.length) :
    s.ReadsAlike s (bindParams s.params) leaf := by
  cases leaf with
  | param index =>
    obtain ⟨v, hv⟩ : ∃ v, s.params[index.toNat]? = some v :=
      ⟨_, List.getElem?_eq_getElem hfits⟩
    have hbound : boundParam s.params index = .literal v := by
      unfold boundParam
      rw [hv]
    have heval : (Expr.param index).eval s.params = .ok v := paramAt_eq_ok.mpr hv
    refine ⟨fun _ => alike_self _, fun _ => alike_self _, ?_, fun clause => ?_, fun source => ?_,
      fun place => ?_⟩
    · simp only [bindParams, hbound, heval]
      exact .ok v
    · simp only [bindParams, hbound, members, value, heval]
      exact .ok v
    · simp only [bindParams, hbound, output, value, heval]
      exact .ok _
    · cases place <;> simp only [bindParams, hbound] <;> rfl
  | paramRange start count =>
    refine ⟨fun _ => alike_self _, fun _ => alike_self _, alike_encoded_self _, fun clause => ?_,
      fun _ => alike_self _, fun place => by cases place <;> rfl⟩
    have hstart : start.toNat < 2 ^ 64 := start.toNat_lt
    have hend : start.toNat + count.toNat < 2 ^ 64 := by
      unfold Expr.Fits at hfits
      omega
    have hslice : count.toNat = 0 ∨ start.toNat + count.toNat ≤ s.params.length := by
      unfold Expr.Fits at hfits
      omega
    have hrange : s.range clause start count =
        .ok ((s.params.drop start.toNat).take count.toNat) :=
      range_eq_ok.mpr ⟨hend, hslice, rfl⟩
    simp only [members, hrange]
    exact .ok _
  | tagged _ _ | and _ | or _ | compare _ _ _ | isNil _ | not _ => cases hleaf
  | _ =>
    exact ⟨fun _ => alike_self _, fun _ => alike_self _, alike_encoded_self _,
      fun _ => alike_self _, fun _ => alike_self _, fun place => by cases place <;> rfl⟩

theorem follows_bindParams (hsize : s.params.length < 2 ^ 64) {e : Expr}
    (h : e.Covered s.params.length) : s.Follows s (bindParams s.params) e :=
  fun x hx hleaf => readsAlike_bindParams hsize hleaf (h x hx)

/-! ### Clauses -/

section Clauses
variable {q : Query} (hsize : s.params.length < 2 ^ 64)
include hsize

theorem filter_bound (h : ∀ e ∈ q.conditions, e.Covered s.params.length) :
    Alike Refusal.SameCause (s.filter .filter q.conditions)
      (s.filter .filter (q.bound s.params).conditions) :=
  filter_substitute fun e he => follows_bindParams hsize (h e he)

theorem paging_bound (hlimit : ∀ e ∈ q.limit.toList, e.Covered s.params.length)
    (hoffset : ∀ e ∈ q.offset.toList, e.Covered s.params.length) :
    Alike Refusal.SameCause (s.paging q.limit q.offset)
      (s.paging (q.bound s.params).limit (q.bound s.params).offset) := by
  refine (integer_substitute fun e he => follows_bindParams hsize (hlimit e he)).bind fun _ => ?_
  refine (integer_substitute fun e he => follows_bindParams hsize (hoffset e he)).bind fun _ => ?_
  exact .ok _

theorem updateCommand_bound
    (h : ∀ g ∈ q.updates, ∀ f ∈ g.fields, f.2.Covered s.params.length) :
    Alike Refusal.SameCause (s.updateCommand q.updates)
      (s.updateCommand (q.bound s.params).updates) := by
  refine Alike.bind (Alike.mapM fun g hg => ?_) fun groups => .ok _
  have hfields := encodeFields_substitute fun f hf => follows_bindParams hsize (h g hg f hf)
  exact ((hfields.inClause .update).map s.rename).bind fun pairs => .ok _

end Clauses

/-! ### Plans -/

theorem covered_orderItems {n : Nat} {q : Query} (h : ∀ e ∈ q.exprs, e.Covered n) :
    ∀ item ∈ q.orderItems, item.expr.Covered n := by
  simp only [Query.exprs, List.forall_mem_append] at h
  obtain ⟨⟨⟨⟨⟨⟨⟨⟨⟨-, horder⟩, -⟩, -⟩, -⟩, -⟩, -⟩, -⟩, -⟩, -⟩ := h
  exact List.forall_mem_map.mp horder

section Plans
variable {q : Query} (hsize : s.params.length < 2 ^ 64)
  (h : ∀ e ∈ q.exprs, e.Covered s.params.length)
include hsize h

theorem find_bound : Alike Refusal.SameCause (s.find q) (s.find (q.bound s.params)) := by
  obtain ⟨hconditions, hselection, hlimit, hoffset, -⟩ := covered_clauses h
  have horder := covered_orderItems h
  unfold find
  rw [q.check_bound, q.orderItems_bound]
  refine (alike_self q.check).bind fun _ => (filter_bound hsize hconditions).bind fun filter => ?_
  refine Alike.bind (order_substitute fun item hitem =>
    follows_bindParams hsize (horder item hitem)) fun order => ?_
  refine Alike.bind (selection_substitute fun e he =>
    follows_bindParams hsize (hselection e he)) fun selected => ?_
  exact (paging_bound hsize hlimit hoffset).bind fun paging => .ok _

theorem count_bound : Alike Refusal.SameCause (s.count q) (s.count (q.bound s.params)) := by
  obtain ⟨hconditions, -, hlimit, hoffset, -⟩ := covered_clauses h
  unfold count
  rw [q.check_bound]
  refine (alike_self q.check).bind fun _ => (filter_bound hsize hconditions).bind fun filter => ?_
  exact (paging_bound hsize hlimit hoffset).bind fun paging => .ok _

theorem updateAll_bound :
    Alike Refusal.SameCause (s.updateAll q) (s.updateAll (q.bound s.params)) := by
  obtain ⟨hconditions, -, -, -, hupdates⟩ := covered_clauses h
  unfold updateAll
  rw [q.check_bound]
  refine (alike_self q.check).bind fun _ => (filter_bound hsize hconditions).bind fun filter => ?_
  exact (updateCommand_bound hsize hupdates).bind fun command => .ok _

theorem deleteAll_bound :
    Alike Refusal.SameCause (s.deleteAll q) (s.deleteAll (q.bound s.params)) := by
  obtain ⟨hconditions, -⟩ := covered_clauses h
  unfold deleteAll
  rw [q.check_bound]
  exact (alike_self q.check).bind fun _ => (filter_bound hsize hconditions).bind fun _ => .ok _

end Plans
end Scope

/-- **Binding parameters is substitution.**  If a query needs no more parameters than there are,
then writing them into it as literals changes none of its bulk plans: both queries have the same
plan, or both are refused with the same code, for the same clause and with the same flaw.

An index is a machine word, and the bound of a query is capped at the largest one.  A list in
memory is shorter, which `hsize` says. -/
theorem Planner.plan_bound (p : Planner) {q : Query} {params : List Value}
    (hbound : q.paramBound ≤ params.length) (hsize : params.length < 2 ^ 64 - 1) :
    ∀ make ∈ [Task.find, Task.count, Task.updateAll, Task.deleteAll],
      (∃ plan, p.plan (make q params) = .ok plan ∧
        p.plan (make (q.bound params) params) = .ok plan) ∨
      ∃ r r', p.plan (make q params) = .error (.refused r) ∧
        p.plan (make (q.bound params) params) = .error (.refused r') ∧ r.SameCause r' := by
  have hcovered : ∀ e ∈ q.exprs, e.Covered (p.scope q params).params.length := fun e he =>
    (Expr.paramBound_le_iff hsize e).mp (Expr.paramBounds_le_iff.mp hbound e he)
  have hindex : (p.scope q params).params.length < 2 ^ 64 := Nat.lt_of_lt_of_le hsize (by decide)
  simp only [List.forall_mem_cons, List.not_mem_nil, false_imp_iff, implies_true, and_true]
  refine ⟨?_, ?_, ?_, ?_⟩
  · exact ((Scope.find_bound hindex hcovered).map Plan.find).of_inBounds
      ((Scope.find_inBounds hcovered).map _)
  · exact ((Scope.count_bound hindex hcovered).map Plan.count).of_inBounds
      ((Scope.count_inBounds hcovered).map _)
  · exact ((Scope.updateAll_bound hindex hcovered).map Plan.write).of_inBounds
      ((Scope.updateAll_inBounds hcovered).map _)
  · exact ((Scope.deleteAll_bound hindex hcovered).map Plan.write).of_inBounds
      ((Scope.deleteAll_inBounds hcovered).map _)

/-- Five parameters, each read in its own way: as a value, as members, under a cast, as the limit
and as code.  The last one stays a parameter when the others are written in. -/
theorem Planner.plan_bound_of_five_places :
    ∃ (p : Planner) (q : Query) (params : List Value) (plan : Plan),
      q.paramBound ≤ params.length ∧ params.length < 2 ^ 64 - 1 ∧ q.paramBound = 5 ∧
      (q.bound params).paramBound = 5 ∧ p.plan (.find q params) = .ok plan ∧
      p.plan (.find (q.bound params) params) = .ok plan := by
  let q : Query :=
    { source := { coll := "users" }
      conditions := [.or [.compare .eq (.field "name") (.param 0),
          .not (.compare .isIn (.field "age") (.paramRange 1 1))],
        .compare .gt (.field "seen") (.tagged (.param 2) .dateTime), .not (.param 4)]
      selection := some [.field "name", .param 0]
      limit := some (.param 3) }
  let params : List Value :=
    [.document (.single "first" .null), .int 30, .int 0, .int 10, .scalar (.code "true")]
  have hbound : q.paramBound ≤ params.length := by decide
  have hsize : params.length < 2 ^ 64 - 1 := by decide
  obtain ⟨plan, hplan⟩ : ∃ plan, ({} : Planner).plan (.find q params) = .ok plan := ⟨_, rfl⟩
  refine ⟨{}, q, params, plan, hbound, hsize, by decide, by decide, hplan, ?_⟩
  rcases plan_bound {} hbound hsize Task.find (by simp) with ⟨plan', h, h'⟩ | ⟨r, r', h, -⟩
  · rw [hplan] at h
    cases h
    exact h'
  · rw [hplan] at h
    cases h

end DocQuery
