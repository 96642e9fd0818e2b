import DocQuery.Proofs.BulkPlans
import DocQuery.Proofs.FindComposition
import DocQuery.Proofs.ParamBounds
import DocQuery.Proofs.UpdateCommands

/-! # A planned query has read all of its parameters

A request is refused if its query needs more parameters than are given, whether or not planning
would ever have come to read them.  This module says that nothing is refused which could have been
planned.  Planning has no place in which it passes over an expression: what it accepts it has
resolved, down to every parameter, and what it does not resolve it refuses.  So the expressions of
a planned clause are `Expr.Covered` by the parameters, and the bound of the query is no larger than
their number (`Planner.paramBound_le_of_plan`).

A find does not look at updates, and an update looks at nothing but conditions and updates, so the
clauses that are not looked at have to be empty. -/
namespace DocQuery

/-! ### The bound of covered expressions -/

namespace Expr

theorem paramBound_le_maxBound (e : Expr) : e.paramBound ≤ maxBound := by
  induction e with
  | param index =>
    rw [paramBound]
    exact Nat.min_le_right _ _
  | paramRange start count =>
    rw [paramBound]
    split
    · exact Nat.zero_le _
    · exact Nat.min_le_right _ _
  | tagged value cast ih | isNil operand ih | not operand ih =>
    rw [paramBound]
    exact ih
  | compare op left right ihl ihr =>
    rw [paramBound]
    exact Nat.max_le.mpr ⟨ihl, ihr⟩
  | and es ih | or es ih =>
    rw [paramBound]
    exact paramBounds_le_iff.mpr ih
  | _ =>
    rw [paramBound]
    exact Nat.zero_le _

/-- The parameters that cover an expression are as many as its bound asks for.  In this direction
it does no harm that bounds stop at the largest index. -/
theorem paramBound_le_of_covered {n : Nat} {e : Expr} (h : e.Covered n) : e.paramBound ≤ n := by
  by_cases hn : n < maxBound
  · exact (paramBound_le_iff hn e).mpr h
  · exact Nat.le_trans e.paramBound_le_maxBound (Nat.le_of_not_lt hn)

/-- An expression with a value has been read to its innermost parameter. -/
theorem covered_of_value? {params : List Value} {e : Expr} {v : Value}
    (h : e.value? params = some v) : e.Covered params.length := by
  induction e generalizing v with
  | literal value => exact everywhere_literal.mpr trivial
  | param index =>
    have hindex : index.toNat < params.length := (List.getElem?_eq_some_iff.mp h).1
    exact everywhere_param.mpr hindex
  | tagged e cast ih =>
    obtain ⟨w, hw, -⟩ := Option.bind_eq_some_iff.mp h
    exact everywhere_tagged.mpr ⟨trivial, ih hw⟩
  | _ => cases h

end Expr

/-! ### Stages -/

namespace Scope
variable {s : Scope} {clause : Clause}

theorem covered_of_field {e : Expr} {key : String} (h : s.field clause e = .ok key) :
    e.Covered s.params.length := by
  obtain ⟨name, rfl, -⟩ := field_eq_ok.mp h
  exact Expr.everywhere_field.mpr trivial

theorem covered_of_value {e : Expr} {v : Value} (h : s.value clause e = .ok v) :
    e.Covered s.params.length := Expr.covered_of_value? (value_eq_ok.mp h)

/-- A range under `in` is read as a whole; one that runs past the last index is not read at all,
but is not accepted either. -/
theorem covered_of_comparand {op : CompareOp} {e : Expr} {v : Value}
    (h : s.comparand clause op e = .ok v) : e.Covered s.params.length := by
  cases op with
  | isIn =>
    cases e with
    | paramRange start count =>
      obtain ⟨vs, hvs, -⟩ := map_eq_ok.mp h
      obtain ⟨-, hread, -⟩ := range_eq_ok.mp hvs
      refine Expr.everywhere_paramRange.mpr ?_
      show 0 < count.toNat → start.toNat + count.toNat ≤ s.params.length
      -- a range without members may start anywhere
      omega
    | _ => exact Expr.covered_of_value? (comparand?_of_comparand h)
  | _ => exact covered_of_value h

theorem covered_of_comparison {op : CompareOp} {left right : Expr} {p : String × Value}
    (h : s.comparison clause op left right = .ok p) :
    (Expr.compare op left right).Covered s.params.length := by
  rw [comparison_eq] at h
  obtain ⟨key, hkey, h⟩ := bind_eq_ok.mp h
  obtain ⟨v, hv, -⟩ := bind_eq_ok.mp h
  exact Expr.everywhere_compare.mpr ⟨trivial, covered_of_field hkey, covered_of_comparand hv⟩

theorem covered_of_operands {es : List Expr} {vs : List Value}
    (hcondition : ∀ e ∈ es, ∀ p, s.condition clause e = .ok p → e.Covered s.params.length)
    (h : es.mapM (s.operand clause) = .ok vs) : ∀ e ∈ es, e.Covered s.params.length := by
  intro e he
  obtain ⟨v, hv⟩ := exists_mapM_eq_ok.mp ⟨vs, h⟩ e he
  rcases of_operand_eq_ok hv with ⟨-, p, hp, -⟩ | ⟨-, hvalue⟩
  · exact hcondition e he p hp
  · exact Expr.covered_of_value? hvalue

/-- A planned condition has been read as a whole: each kind of condition resolves all that stands
below it. -/
theorem covered_of_condition {e : Expr} {p : String × Value} (h : s.condition clause e = .ok p) :
    e.Covered s.params.length := by
  induction e generalizing p with
  | and es ih =>
    rw [condition_and] at h
    obtain ⟨vs, hvs, -⟩ := map_eq_ok.mp h
    exact Expr.everywhere_and.mpr ⟨trivial, covered_of_operands (fun e he _ => ih e he) hvs⟩
  | or es ih =>
    rw [condition_or] at h
    obtain ⟨vs, hvs, -⟩ := map_eq_ok.mp h
    exact Expr.everywhere_or.mpr ⟨trivial, covered_of_operands (fun e he _ => ih e he) hvs⟩
  | isNil operand =>
    rw [condition_isNil] at h
    obtain ⟨key, hkey, -⟩ := map_eq_ok.mp h
    exact Expr.everywhere_isNil.mpr ⟨trivial, covered_of_field hkey⟩
  | compare op left right =>
    rw [condition_compare] at h
    exact covered_of_comparison h
  | not operand ih =>
    rw [condition_not] at h
    obtain ⟨q, hq, -⟩ := map_eq_ok.mp h
    exact Expr.everywhere_not.mpr ⟨trivial, ih hq⟩
  | param index =>
    rw [condition_param] at h
    obtain ⟨v, hv, -⟩ := bind_eq_ok.mp h
    exact covered_of_value hv
  | _ =>
    simp only [condition] at h
    cases h

theorem covered_of_filter {es : List Expr} {filter : Document}
    (h : s.filter clause es = .ok filter) : ∀ e ∈ es, e.Covered s.params.length := by
  intro e he
  obtain ⟨ps, hps, -⟩ := map_eq_ok.mp h
  obtain ⟨p, hp⟩ := exists_mapM_eq_ok.mp ⟨ps, hps⟩ e he
  exact covered_of_condition hp

theorem covered_of_order {items : List OrderItem} {order : Document}
    (h : s.order items = .ok order) :
    ∀ e ∈ items.map OrderItem.expr, e.Covered s.params.length := by
  refine List.forall_mem_map.mpr fun item hitem => ?_
  obtain ⟨ps, hps, -⟩ := map_eq_ok.mp h
  obtain ⟨p, hp⟩ := exists_mapM_eq_ok.mp ⟨ps, hps⟩ item hitem
  obtain ⟨key, hkey, -⟩ := bind_eq_ok.mp hp
  exact covered_of_field hkey

theorem covered_of_selection {source : Source} {selection : Option (List Expr)}
    {selected : Selected} (h : s.selection source selection = .ok selected) :
    ∀ e ∈ selection.getD [], e.Covered s.params.length := by
  intro e he
  obtain ⟨outputs, houtputs, -⟩ := map_eq_ok.mp (s.selection_eq source selection ▸ h)
  obtain ⟨o, ho⟩ := exists_mapM_eq_ok.mp ⟨outputs, houtputs⟩ e he
  cases e with
  | field name => exact Expr.everywhere_field.mpr trivial
  | source => exact Expr.everywhere_source.mpr trivial
  | _ =>
    obtain ⟨v, hv, -⟩ := map_eq_ok.mp ho
    exact covered_of_value hv

theorem covered_of_integer {e? : Option Expr} {n : Int64} (h : s.integer clause e? = .ok n) :
    ∀ e ∈ e?.toList, e.Covered s.params.length := by
  cases e? with
  | none => exact List.forall_mem_nil _
  | some e =>
    obtain ⟨v, hv, -⟩ := bind_eq_ok.mp h
    exact List.forall_mem_singleton.mpr (covered_of_value hv)

theorem covered_of_paging {limit offset : Option Expr} {paging : Paging}
    (h : s.paging limit offset = .ok paging) :
    (∀ e ∈ limit.toList, e.Covered s.params.length) ∧
      ∀ e ∈ offset.toList, e.Covered s.params.length := by
  obtain ⟨n, hlimit, h⟩ := bind_eq_ok.mp h
  obtain ⟨m, hoffset, -⟩ := bind_eq_ok.mp h
  exact ⟨covered_of_integer hlimit, covered_of_integer hoffset⟩

theorem covered_of_resolves {fields : List (String × Expr)} {pairs : List (String × Value)}
    (h : s.Resolves fields pairs) : ∀ f ∈ fields, f.2.Covered s.params.length := by
  induction h with
  | nil => exact List.forall_mem_nil _
  | cons hfield _ ih => exact List.forall_mem_cons.mpr ⟨Expr.covered_of_value? hfield.2, ih⟩

theorem covered_of_updateCommand {groups : List UpdateGroup} {command : Document}
    (h : s.updateCommand groups = .ok command) :
    ∀ g ∈ groups, ∀ f ∈ g.fields, f.2.Covered s.params.length := by
  intro g hg
  rw [updateCommand_eq_map] at h
  obtain ⟨changes, hchanges, -⟩ := map_eq_ok.mp h
  obtain ⟨change, hchange⟩ := exists_mapM_eq_ok.mp ⟨changes, hchanges⟩ g hg
  obtain ⟨pairs, hpairs, -⟩ := map_eq_ok.mp hchange
  exact covered_of_resolves (resolves_of_updatePairs hpairs)

end Scope

/-! ### Plans -/

/-- A query that asks for nothing the store lacks has no expressions but those of the clauses that
planning knows. -/
theorem Query.exprs_of_check {q : Query} (h : q.check = .ok ()) :
    q.exprs = q.conditions ++ q.orderItems.map OrderItem.expr ++ q.selection.getD [] ++
      q.limit.toList ++ q.offset.toList ++ q.updateFields.map Prod.snd := by
  have hnone (feature : Feature) : q.carries feature = false := by
    cases hcarries : q.carries feature with
    | false => rfl
    | true =>
      obtain ⟨first, -, hrefused⟩ := Query.exists_unsupported hcarries
      rw [h] at hrefused
      cases hrefused
  have hdistinct : q.distinct = none := by simpa [carries] using hnone .distinct
  have hjoins : q.joins = [] := by simpa [carries] using hnone .joins
  have hgroups : q.groups = [] := by simpa [carries] using hnone .groupBy
  have hhavings : q.havings = [] := by simpa [carries] using hnone .having
  rw [exprs, hdistinct, hjoins, hgroups, hhavings]
  simp only [Option.toList_none, List.map_nil, List.append_nil]

namespace Scope
variable {s : Scope} {q : Query}

theorem covered_of_find {f : Find} (h : s.find q = .ok f) (hupdates : q.updateFields = []) :
    ∀ e ∈ q.exprs, e.Covered s.params.length := by
  obtain ⟨hcheck, ⟨filter, order, hfilter, horder, -⟩, ⟨selected, hselected, -⟩, hpaging⟩ :=
    stages_of_find h
  obtain ⟨hlimit, hoffset⟩ := covered_of_paging hpaging
  rw [Query.exprs_of_check hcheck, hupdates, List.map_nil, List.append_nil]
  simp only [List.forall_mem_append]
  exact ⟨⟨⟨⟨covered_of_filter hfilter, covered_of_order horder⟩, covered_of_selection hselected⟩,
    hlimit⟩, hoffset⟩

theorem covered_of_updateAll {w : Write} (h : s.updateAll q = .ok w) (horder : q.orderItems = [])
    (hselection : q.selection.getD [] = []) (hlimit : q.limit = none) (hoffset : q.offset = none) :
    ∀ e ∈ q.exprs, e.Covered s.params.length := by
  obtain ⟨_, hcheck, h⟩ := bind_eq_ok.mp h
  obtain ⟨filter, hfilter, h⟩ := bind_eq_ok.mp h
  obtain ⟨command, hcommand, -⟩ := bind_eq_ok.mp h
  rw [Query.exprs_of_check hcheck, horder, hselection, hlimit, hoffset]
  simp only [List.map_nil, Option.toList_none, List.append_nil]
  refine List.forall_mem_append.mpr ⟨covered_of_filter hfilter, List.forall_mem_map.mpr ?_⟩
  intro f hf
  obtain ⟨g, hg, hfg⟩ := List.mem_flatMap.mp hf
  exact covered_of_updateCommand hcommand g hg f hfg

end Scope

/-- The bound of a query whose expressions are covered is no reason to refuse a request for it. -/
theorem Query.paramBound_le_of_covered {q : Query} {n : Nat} (h : ∀ e ∈ q.exprs, e.Covered n) :
    q.paramBound ≤ n :=
  Expr.paramBounds_le_iff.mpr fun e he => Expr.paramBound_le_of_covered (h e he)

theorem Request.checkParams_of_le {r : Request} {q : Query} {params : List Value}
    (hq : r.query? = some (q, params)) (hle : q.paramBound ≤ params.length) :
    r.checkParams = .ok r := by
  unfold checkParams
  rw [hq]
  exact if_neg (Nat.not_lt.mpr hle)

/-- **What can be planned is not refused for its parameters.**  A query without updates that can be
found needs no more parameters than are given, and neither does a query that can be updated and has
conditions and updates only; requests for them pass the check of parameters. -/
theorem Planner.paramBound_le_of_plan (p : Planner) (q : Query) (params : List Value) :
    (q.updates = [] → ∀ plan, p.plan (.find q params) = .ok plan →
      q.paramBound ≤ params.length ∧
        (Request.find q params).checkParams = .ok (.find q params)) ∧
    (q.orders = [] → q.selection = none → q.limit = none → q.offset = none →
      ∀ plan, p.plan (.updateAll q params) = .ok plan →
        q.paramBound ≤ params.length ∧
          (Request.updateAll q params).checkParams = .ok (.updateAll q params)) := by
  constructor
  · intro hupdates plan hplan
    obtain ⟨f, hf, -⟩ := map_eq_ok.mp hplan
    have hfields : q.updateFields = [] := by rw [Query.updateFields, hupdates, List.flatMap_nil]
    have hle : q.paramBound ≤ params.length :=
      Query.paramBound_le_of_covered (Scope.covered_of_find hf hfields)
    exact ⟨hle, Request.checkParams_of_le rfl hle⟩
  · intro horders hselection hlimit hoffset plan hplan
    obtain ⟨w, hw, -⟩ := map_eq_ok.mp hplan
    have hitems : q.orderItems = [] := by rw [Query.orderItems, horders, List.flatten_nil]
    have hitems' : q.selection.getD [] = [] := by rw [hselection, Option.getD_none]
    have hle : q.paramBound ≤ params.length :=
      Query.paramBound_le_of_covered (Scope.covered_of_updateAll hw hitems hitems' hlimit hoffset)
    exact ⟨hle, Request.checkParams_of_le rfl hle⟩

/-- Both plans of one condition read the last parameter there is: in a range below a negation, and
in a cast that is written to a field.  A second range has no members and starts past all
parameters. -/
theorem Planner.paramBound_le_of_plan_with_ranges :
    ∃ (p : Planner) (q changed : Query) (params : List Value) (found updated : Plan),
      q.updates = [] ∧ p.plan (.find q params) = .ok found ∧
      q.paramBound ≤ params.length ∧ q.paramBound = 4 ∧
      p.plan (.updateAll changed params) = .ok updated ∧
      changed.paramBound ≤ params.length ∧ changed.paramBound = 4 ∧
      (Request.updateAll changed params).checkParams = .ok (.updateAll changed params) := by
  let params : List Value := [.int 1, .int 2, .int 3, .int 4]
  let within : Expr := .not (.compare .isIn (.field "id") (.paramRange 1 3))
  let empty : Expr := .compare .isIn (.field "id") (.paramRange 18446744073709551615 0)
  let q : Query :=
    { source := { coll := "users" }
      conditions := [.or [within, empty, .literal (.bool true)]]
      limit := some (.param 0) }
  let changed : Query :=
    { source := { coll := "users" }
      conditions := [empty]
      updates := [{ op := .set, fields := [("age", .tagged (.param 3) .float)] }] }
  obtain ⟨found, hfound⟩ : ∃ found, ({} : Planner).plan (.find q params) = .ok found := ⟨_, rfl⟩
  obtain ⟨updated, hupdated⟩ :
      ∃ updated, ({} : Planner).plan (.updateAll changed params) = .ok updated := ⟨_, rfl⟩
  obtain ⟨hle, -⟩ := (Planner.paramBound_le_of_plan {} q params).1 rfl found hfound
  obtain ⟨hle', hcheck⟩ :=
    (Planner.paramBound_le_of_plan {} changed params).2 rfl rfl rfl rfl updated hupdated
  exact ⟨{}, q, changed, params, found, updated, rfl, hfound, hle, by decide, hupdated, hle',
    by decide, hcheck⟩

end DocQuery
