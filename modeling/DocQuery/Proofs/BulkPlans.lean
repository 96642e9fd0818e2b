import DocQuery.Plan.Task
import DocQuery.Proofs.FailingNodes

/-! # The four bulk plans of a query

A find, a count, an update and a deletion are planned from the same query, each by a function
of its own.  What they have in common is what they all begin with: the check for features and
the plan of the filter (`Scope.matching`).  A deletion needs nothing else, so it tells apart
failures of this beginning from failures of what follows, and what follows can refuse only
expressions of the clauses that it reads (`RefusesIn`). -/
namespace DocQuery

/-! ### Features -/

/-- Whether a query asks for a feature that the store lacks. -/
def Query.carries (q : Query) : Feature → Bool
  | .distinct => q.distinct.isSome
  | .lock => q.lock.isSome
  | .joins => !q.joins.isEmpty
  | .groupBy => !q.groups.isEmpty
  | .having => !q.havings.isEmpty

/-- The feature reported is the first one in the order of all features. -/
theorem Query.unsupported?_eq_find? (q : Query) :
    q.unsupported? = Feature.all.find? q.carries := by
  unfold unsupported?
  simp only [Feature.all, List.find?_cons, List.find?_nil, carries]
  cases q.distinct.isSome <;> cases q.lock.isSome <;> cases q.joins.isEmpty <;>
    cases q.groups.isEmpty <;> cases q.havings.isEmpty <;> rfl

theorem Query.exists_unsupported {q : Query} {feature : Feature} (h : q.carries feature = true) :
    ∃ first, Feature.all.find? q.carries = some first ∧
      q.check = .error (.refused (.unsupported first)) := by
  have hmem : feature ∈ Feature.all := by cases feature <;> decide
  obtain ⟨first, hfirst⟩ := Option.isSome_iff_exists.mp
    (List.find?_isSome.mpr ⟨feature, hmem, h⟩)
  refine ⟨first, hfirst, ?_⟩
  unfold check
  rw [q.unsupported?_eq_find?, hfirst]
  rfl

/-! ### Where a step refuses -/

/-- Every refusal of the step is about an expression of one of the clauses. -/
def RefusesIn {α : Type} (clauses : List Clause) (x : Planned α) : Prop :=
  ∀ r, x = .error (.refused r) → ∃ clause ∈ clauses, ∃ node flaw, r = .invalid clause node flaw

theorem refusesIn_iff_failsOnly {α : Type} {clauses : List Clause} {x : Planned α} :
    RefusesIn clauses x ↔ FailsOnly (fun failure => ∀ r, failure = .refused r →
      ∃ clause ∈ clauses, ∃ node flaw, r = .invalid clause node flaw) x := by
  constructor
  · intro h failure hx r hfailure
    exact h r (hx.trans (congrArg Except.error hfailure))
  · intro h r hx
    exact h _ hx r rfl

namespace RefusesIn
variable {α β : Type} {clauses : List Clause} {clause : Clause}

theorem ok (a : α) : RefusesIn clauses (.ok a) :=
  refusesIn_iff_failsOnly.mpr (.ok a)

/-- A step that fails at the nodes of an expression refuses in the clause of the expression. -/
theorem of_failsIn {s : Scope} {e : Expr} {x : Planned α} (hclause : clause ∈ clauses)
    (h : FailsOnly (s.FailsIn clause e) x) : RefusesIn clauses x := by
  intro r hr
  obtain ⟨node, -, hat⟩ := h _ hr
  cases hat with
  | misplaced => exact ⟨clause, hclause, node, none, rfl⟩
  | @noValue _ error _ => exact ⟨clause, hclause, error.node, some error.flaw, rfl⟩

theorem inClause (hclause : clause ∈ clauses) (x : Encoded α) :
    RefusesIn clauses (x.inClause clause) := by
  intro r h
  rcases x with (e | ⟨size, index⟩) | a <;> cases h
  exact ⟨clause, hclause, e.node, some e.flaw, rfl⟩

theorem bind {x : Planned α} {f : α → Planned β} (hx : RefusesIn clauses x)
    (hf : ∀ a, RefusesIn clauses (f a)) : RefusesIn clauses (x >>= f) :=
  refusesIn_iff_failsOnly.mpr
    ((refusesIn_iff_failsOnly.mp hx).bind fun a => refusesIn_iff_failsOnly.mp (hf a))

theorem map {x : Planned α} (f : α → β) (hx : RefusesIn clauses x) :
    RefusesIn clauses (f <$> x) :=
  refusesIn_iff_failsOnly.mpr ((refusesIn_iff_failsOnly.mp hx).map f)

theorem mapM {f : α → Planned β} {as : List α} (h : ∀ a ∈ as, RefusesIn clauses (f a)) :
    RefusesIn clauses (as.mapM f) :=
  refusesIn_iff_failsOnly.mpr (.mapM fun a ha => refusesIn_iff_failsOnly.mp (h a ha))

end RefusesIn

/-! ### Stages after the filter -/

namespace Scope
variable (s : Scope) {clauses : List Clause} {clause : Clause}

theorem order_refusesIn (hclause : Clause.order ∈ clauses) (items : List OrderItem) :
    RefusesIn clauses (s.order items) :=
  (RefusesIn.mapM fun item _ =>
    (RefusesIn.of_failsIn hclause (field_failsIn item.expr)).bind fun _ => RefusesIn.ok _).map _

theorem selection_refusesIn (hclause : Clause.selection ∈ clauses) (source : Source)
    (selection : Option (List Expr)) : RefusesIn clauses (s.selection source selection) := by
  rw [selection_eq]
  exact (RefusesIn.mapM fun e _ => RefusesIn.of_failsIn hclause (output_failsIn source e)).map _

theorem integer_refusesIn (hclause : clause ∈ clauses) (e? : Option Expr) :
    RefusesIn clauses (s.integer clause e?) := by
  cases e? with
  | none => exact RefusesIn.ok 0
  | some e => exact RefusesIn.of_failsIn hclause (integer_failsIn e)

theorem paging_refusesIn (hlimit : Clause.limit ∈ clauses) (hoffset : Clause.offset ∈ clauses)
    (limit offset : Option Expr) : RefusesIn clauses (s.paging limit offset) :=
  (s.integer_refusesIn hlimit limit).bind fun _ =>
    (s.integer_refusesIn hoffset offset).bind fun _ => RefusesIn.ok _

theorem updateCommand_refusesIn (hclause : Clause.update ∈ clauses) (groups : List UpdateGroup) :
    RefusesIn clauses (s.updateCommand groups) := by
  refine RefusesIn.bind (RefusesIn.mapM fun g _ => ?_) fun _ => RefusesIn.ok _
  exact ((RefusesIn.inClause hclause _).map s.rename).bind fun _ => RefusesIn.ok _

/-! ### What the plans begin with -/

/-- The filter of a query that asks for no feature the store lacks. -/
def matching (q : Query) : Planned Document := do
  q.check
  s.filter .filter q.conditions

/-- What a find does once it has its filter. -/
def findMatching (q : Query) (filter : Document) : Planned Find := do
  let order ← s.order q.orderItems
  let selected ← s.selection q.source q.selection
  let paging ← s.paging q.limit q.offset
  pure { coll := q.source.coll, primaryKey := s.primaryKey, params := s.params,
         query := Find.compose filter order, projection := selected.projection,
         outputs := selected.outputs, paging }

variable (q : Query)

theorem find_eq_bind : s.find q = s.matching q >>= s.findMatching q := by
  unfold find matching
  rw [bind_assoc]
  rfl

theorem count_eq_bind :
    s.count q = s.matching q >>= fun filter =>
      (fun paging => { coll := q.source.coll, primaryKey := s.primaryKey, filter, paging }) <$>
        s.paging q.limit q.offset := by
  unfold count matching
  simp only [bind_assoc, bind_pure_comp]

theorem updateAll_eq_bind :
    s.updateAll q = s.matching q >>= fun filter =>
      (fun command => { coll := q.source.coll, filter, command := some command, multi := true }) <$>
        s.updateCommand q.updates := by
  unfold updateAll matching
  simp only [bind_assoc, bind_pure_comp]

theorem deleteAll_eq_map :
    s.deleteAll q = (fun filter =>
      { coll := q.source.coll, filter, command := none, multi := true }) <$> s.matching q := by
  unfold deleteAll matching
  simp only [bind_pure_comp, map_bind]

/-! ### Agreement -/

variable {s q}

/-- What a planned find is made of, once its filter is planned. -/
theorem of_findMatching_eq_ok {filter : Document} {f : Find}
    (h : s.findMatching q filter = .ok f) :
    (∃ order, s.order q.orderItems = .ok order ∧ f.query = Find.compose filter order) ∧
      s.paging q.limit q.offset = .ok f.paging ∧ f.primaryKey = s.primaryKey ∧
      f.coll = q.source.coll := by
  obtain ⟨order, horder, h⟩ := bind_eq_ok.mp h
  obtain ⟨selected, -, h⟩ := bind_eq_ok.mp h
  obtain ⟨paging, hpaging, h⟩ := bind_eq_ok.mp h
  obtain rfl := pure_eq_ok.mp h
  exact ⟨⟨order, horder, rfl⟩, hpaging, rfl, rfl⟩

theorem of_count_eq_ok {c : Count} (h : s.count q = .ok c) :
    s.matching q = .ok c.filter ∧ s.paging q.limit q.offset = .ok c.paging ∧
      c.primaryKey = s.primaryKey ∧ c.coll = q.source.coll := by
  obtain ⟨filter, hfilter, h⟩ := bind_eq_ok.mp (s.count_eq_bind q ▸ h)
  obtain ⟨paging, hpaging, rfl⟩ := map_eq_ok.mp h
  exact ⟨hfilter, hpaging, rfl, rfl⟩

theorem matching_of_updateAll {u : Write} (h : s.updateAll q = .ok u) :
    s.matching q = .ok u.filter := by
  obtain ⟨filter, hfilter, h⟩ := bind_eq_ok.mp (s.updateAll_eq_bind q ▸ h)
  obtain ⟨command, -, rfl⟩ := map_eq_ok.mp h
  exact hfilter

theorem findMatching_refusesIn (filter : Document) :
    RefusesIn [.order, .selection, .limit, .offset] (s.findMatching q filter) := by
  refine (s.order_refusesIn (by simp) _).bind fun _ => ?_
  refine (s.selection_refusesIn (by simp) _ _).bind fun _ => ?_
  exact (s.paging_refusesIn (by simp) (by simp) _ _).bind fun _ => RefusesIn.ok _

theorem matching_of_deleteAll {w : Write} (h : s.deleteAll q = .ok w) :
    s.matching q = .ok w.filter := by
  obtain ⟨filter, hfilter, rfl⟩ := map_eq_ok.mp (s.deleteAll_eq_map q ▸ h)
  exact hfilter

theorem matching_of_deleteAll_error {failure : Failure Refusal}
    (h : s.deleteAll q = .error failure) : s.matching q = .error failure := by
  rw [deleteAll_eq_map] at h
  cases hmatching : s.matching q with
  | error e =>
    rw [hmatching] at h
    cases h
    rfl
  | ok filter =>
    rw [hmatching] at h
    cases h

/-- What the bulk plans of a query have in common. -/
structure BulkAgreement (s : Scope) (q : Query) : Prop where
  /-- If the deletion fails, all fail in the same way. -/
  failure : ∀ failure, s.deleteAll q = .error failure →
    s.find q = .error failure ∧ s.count q = .error failure ∧ s.updateAll q = .error failure
  /-- A query with a feature that the store lacks is refused for the first such feature,
  whatever else it holds. -/
  unsupported : ∀ feature, q.carries feature = true →
    ∃ first, Feature.all.find? q.carries = some first ∧
      s.deleteAll q = .error (.refused (.unsupported first))
  /-- All have the filter of the deletion; a find has it together with its order. -/
  filter : ∀ w, s.deleteAll q = .ok w →
    (∀ c, s.count q = .ok c → c.filter = w.filter) ∧
    (∀ u, s.updateAll q = .ok u → u.filter = w.filter) ∧
    ∀ f, s.find q = .ok f →
      ∃ order, s.order q.orderItems = .ok order ∧ f.query = Find.compose w.filter order
  /-- If the deletion does not fail, the others refuse only what they read besides. -/
  refusal : ∀ w, s.deleteAll q = .ok w →
    RefusesIn [.order, .selection, .limit, .offset] (s.find q) ∧
    RefusesIn [.limit, .offset] (s.count q) ∧ RefusesIn [.update] (s.updateAll q)
  /-- A find and a count have the same page, key and collection. -/
  page : ∀ f c, s.find q = .ok f → s.count q = .ok c →
    f.paging = c.paging ∧ f.primaryKey = c.primaryKey ∧ f.coll = c.coll
  /-- What can be found can be counted. -/
  count_of_find : ∀ f, s.find q = .ok f → ∃ c, s.count q = .ok c

/-- **The four bulk plans of a query agree** on what they accept, on how they fail, and on the
filter, whatever the parameters, the primary keys and the settings are. -/
theorem bulk_plans_agree (p : Planner) (q : Query) (params : List Value) :
    (p.scope q params).BulkAgreement q := by
  generalize p.scope q params = s
  constructor
  case failure =>
    intro failure h
    rw [find_eq_bind, count_eq_bind, updateAll_eq_bind, matching_of_deleteAll_error h]
    exact ⟨rfl, rfl, rfl⟩
  case unsupported =>
    intro feature hfeature
    obtain ⟨first, hfirst, hcheck⟩ := Query.exists_unsupported hfeature
    refine ⟨first, hfirst, ?_⟩
    rw [deleteAll_eq_map, matching, hcheck]
    rfl
  case filter =>
    intro w h
    have hw := matching_of_deleteAll h
    refine ⟨fun c hc => ?_, fun u hu => ?_, fun f hf => ?_⟩
    · exact Except.ok.inj ((of_count_eq_ok hc).1.symm.trans hw)
    · exact Except.ok.inj ((matching_of_updateAll hu).symm.trans hw)
    · rw [find_eq_bind, hw] at hf
      exact (of_findMatching_eq_ok hf).1
  case refusal =>
    intro w h
    rw [find_eq_bind, count_eq_bind, updateAll_eq_bind, matching_of_deleteAll h]
    refine ⟨findMatching_refusesIn w.filter, ?_, ?_⟩
    · exact (s.paging_refusesIn (by simp) (by simp) _ _).map _
    · exact (s.updateCommand_refusesIn (by simp) _).map _
  case page =>
    intro f c hf hc
    obtain ⟨filter, -, hf⟩ := bind_eq_ok.mp (s.find_eq_bind q ▸ hf)
    obtain ⟨-, hpaging, hkey, hcoll⟩ := of_findMatching_eq_ok hf
    obtain ⟨-, hpaging', hkey', hcoll'⟩ := of_count_eq_ok hc
    exact ⟨Except.ok.inj (hpaging.symm.trans hpaging'), hkey.trans hkey'.symm,
      hcoll.trans hcoll'.symm⟩
  case count_of_find =>
    intro f hf
    obtain ⟨filter, hfilter, hf⟩ := bind_eq_ok.mp (s.find_eq_bind q ▸ hf)
    obtain ⟨-, hpaging, -⟩ := of_findMatching_eq_ok hf
    rw [count_eq_bind, hfilter]
    exact ⟨_, map_eq_ok.mpr ⟨f.paging, hpaging, rfl⟩⟩

/-- A query that can be counted, updated and deleted, all with the same filter, but that cannot be
found, since its order is by a literal. -/
theorem bulk_plans_agree_of_bad_order :
    ∃ (p : Planner) (q : Query) (params : List Value) (w : Write) (c : Count) (u : Write)
      (f : Refusal),
      (p.scope q params).deleteAll q = .ok w ∧ (p.scope q params).count q = .ok c ∧
      (p.scope q params).updateAll q = .ok u ∧
      (p.scope q params).find q = .error (.refused f) ∧
      c.filter = w.filter ∧ u.filter = w.filter ∧
      ∃ clause ∈ [Clause.order, .selection, .limit, .offset], ∃ node flaw,
        f = .invalid clause node flaw := by
  let q : Query :=
    { source := { coll := "users" }
      conditions := [.compare .gt (.field "age") (.param 0)]
      orders := [[{ direction := .ascending, expr := .literal (.int 1) }]]
      limit := some (.param 1)
      updates := [{ op := .increment, fields := [("age", .param 0)] }] }
  let params : List Value := [.int 30, .int 10]
  have h := bulk_plans_agree {} q params
  obtain ⟨w, hw⟩ : ∃ w, (({} : Planner).scope q params).deleteAll q = .ok w := ⟨_, rfl⟩
  obtain ⟨c, hc⟩ : ∃ c, (({} : Planner).scope q params).count q = .ok c := ⟨_, rfl⟩
  obtain ⟨u, hu⟩ : ∃ u, (({} : Planner).scope q params).updateAll q = .ok u := ⟨_, rfl⟩
  obtain ⟨f, hf⟩ : ∃ f, (({} : Planner).scope q params).find q = .error (.refused f) := ⟨_, rfl⟩
  obtain ⟨hcount, hupdate, -⟩ := h.filter w hw
  exact ⟨{}, q, params, w, c, u, f, hw, hc, hu, hf, hcount c hc, hupdate u hu,
    (h.refusal w hw).1 f hf⟩

end Scope
end DocQuery
