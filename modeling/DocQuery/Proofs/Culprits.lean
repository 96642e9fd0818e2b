import DocQuery.Proofs.BulkPlans
import DocQuery.Proofs.FailingNodes
import DocQuery.Proofs.KeyChecks
import DocQuery.Proofs.UpdateCommands

/-! # What refusals point at

A refusal names a clause and an expression.  The expression is built or passed on in many places,
by stages that stop at the first fault, and for keys it is no expression of the query at all.  This
module says what can be relied on.  A refusal for anything but a key is the refusal of one
expression of its clause, taken by itself, and points at a node of it (`Scope.ExprFault`); all
expressions of the clause that come before are accepted.  A refusal for a key is about the first
group of updates that cannot be written (`Scope.KeyFault`), and only if all values of this group
are there. -/
namespace DocQuery

/-! ### Values -/

/-- The cast fails on the value of the expression below it, and is the innermost that does:
everything below it has a value. -/
def Expr.CastFails (params : List Value) (cast : Cast) (node : Expr) : Prop :=
  ∃ inner v, node = .tagged inner cast ∧ inner.value? params = some v ∧ cast.value? v = none ∧
    ∀ x ∈ inner.nodes, ∃ w, x.value? params = some w

/-- An error that is the fault of the expression that it names: no parameters give it a value, or
it is a cast that fails. -/
inductive ValueError.IsDeserved (params : List Value) : ValueError → Prop
  | notValue {node : Expr} (h : ∀ params, node.value? params = none) :
      IsDeserved params { node, flaw := .notValue }
  | badCast {node : Expr} {cast : Cast} (h : node.CastFails params cast) :
      IsDeserved params { node, flaw := .badCast cast }

namespace Expr
variable {params : List Value} {e : Expr}

/-- What is below an expression with a value has a value itself. -/
theorem exists_value?_of_mem_nodes {v : Value} (h : e.value? params = some v) :
    ∀ x ∈ e.nodes, ∃ w, x.value? params = some w := by
  induction e generalizing v with
  | tagged e cast ih =>
    obtain ⟨w, hw, -⟩ := Option.bind_eq_some_iff.mp h
    exact List.forall_mem_cons.mpr ⟨⟨v, h⟩, ih hw⟩
  | literal value => exact List.forall_mem_singleton.mpr ⟨v, h⟩
  | param index => exact List.forall_mem_singleton.mpr ⟨v, h⟩
  | _ => cases h

/-- An expression without a value is refused at one of its nodes, and the node deserves it. -/
theorem eval_refused {error : ValueError} (h : e.eval params = .error (.refused error)) :
    error.node ∈ e.nodes ∧ error.IsDeserved params := by
  induction e generalizing error with
  | literal value => cases h
  | param index =>
    unfold eval paramAt at h
    split at h <;> cases h
  | tagged e cast ih =>
    rcases bind_eq_error.mp h with hinner | ⟨v, hv, hcast⟩
    · obtain ⟨hnode, hdeserved⟩ := ih hinner
      exact ⟨List.mem_cons_of_mem _ hnode, hdeserved⟩
    · have hvalue := eval_eq_ok.mp hv
      cases hfits : cast.value? v with
      | some w =>
        rw [hfits] at hcast
        cases hcast
      | none =>
        rw [hfits] at hcast
        cases hcast
        have hbelow := exists_value?_of_mem_nodes hvalue
        exact ⟨List.mem_cons_self, .badCast ⟨e, v, rfl, hvalue, hfits, hbelow⟩⟩
  | _ =>
    cases h
    exact ⟨self_mem_nodes _, .notValue fun _ => rfl⟩

end Expr

/-! ### Expressions -/

/-- The refusal points at a node of the expression, for a fault of this node. -/
def Refusal.PointsInto (params : List Value) (clause : Clause) (e : Expr) (r : Refusal) : Prop :=
  ∃ node flaw, r = .invalid clause node flaw ∧ node ∈ e.nodes ∧
    ∀ f, flaw = some f → ValueError.IsDeserved params ⟨node, f⟩

/-- A refusal at a node of an expression points into it. -/
theorem Scope.FailsIn.pointsInto {s : Scope} {clause : Clause} {e : Expr} {r : Refusal}
    (h : s.FailsIn clause e (.refused r)) : r.PointsInto s.params clause e := by
  obtain ⟨node, hnode, hat⟩ := h
  cases hat with
  | misplaced =>
    refine ⟨node, none, rfl, hnode, fun f hf => ?_⟩
    cases hf
  | @noValue _ error heval =>
    obtain ⟨hbelow, hdeserved⟩ := Expr.eval_refused heval
    refine ⟨error.node, some error.flaw, rfl, Expr.mem_nodes_of_mem_nodes hnode hbelow, ?_⟩
    rintro f ⟨⟩
    exact hdeserved

/-! ### Clauses -/

/-- The expressions of a clause, in order. -/
def Query.exprsOf (q : Query) : Clause → List Expr
  | .filter => q.conditions
  | .selection => q.selection.getD []
  | .order => q.orderItems.map OrderItem.expr
  | .limit => q.limit.toList
  | .offset => q.offset.toList
  | .update => q.updateFields.map Prod.snd
  | .insert => []

namespace Scope

/-- Plans one expression of a clause by itself, for its failure only. -/
def alone (s : Scope) (source : Source) (clause : Clause) (e : Expr) : Planned Unit :=
  match clause with
  | .filter => (fun _ => ()) <$> s.condition .filter e
  | .selection => (fun _ => ()) <$> s.select source {} e
  | .order => (fun _ => ()) <$> s.field .order e
  | .limit => (fun _ => ()) <$> s.integer .limit (some e)
  | .offset => (fun _ => ()) <$> s.integer .offset (some e)
  | .update => (fun _ => ()) <$> s.value .update e
  | .insert => .ok ()

/-- A refusal at a node is the fault of an expression of the clause. -/
structure ExprFault (s : Scope) (q : Query) (clause : Clause) (node : Expr) (flaw : Option Flaw)
    (before : List Expr) (e : Expr) (after : List Expr) : Prop where
  exprs_eq : q.exprsOf clause = before ++ e :: after
  /-- What comes before in the clause is accepted. -/
  earlier : ∀ x ∈ before, s.alone q.source clause x = .ok ()
  /-- By itself the expression is refused in the same way. -/
  refused : s.alone q.source clause e = .error (.refused (.invalid clause node flaw))
  node_mem : node ∈ e.nodes
  cast : ∀ cast, flaw = some (.badCast cast) → node.CastFails s.params cast

/-- A refusal for a key is the fault of a group of updates. -/
structure KeyFault (s : Scope) (groups : List UpdateGroup) (key : String)
    (before : List UpdateGroup) (g : UpdateGroup) (after : List UpdateGroup)
    (pairs : List (String × Value)) : Prop where
  groups_eq : groups = before ++ g :: after
  /-- The groups before can be written. -/
  earlier : ∀ earlier ∈ before, ∃ pairs, s.updatePairs earlier.fields = .ok pairs
  refused : s.updatePairs g.fields =
    .error (.refused (.invalid .update (.field key) (some .badKey)))
  /-- Every field of the group has a value. -/
  values : List.Forall₂ (fun f p => p.1 = f.1 ∧ f.2.value? s.params = some p.2) g.fields pairs
  /-- The key is that of a field, or stands below the value of a field. -/
  key_mem : key ∈ g.fields.map Prod.fst ∨ ∃ p ∈ pairs, key ∈ p.2.deepKeys
  not_storeKey : ¬ StoreKey key

variable {s : Scope} {q : Query} {clause : Clause} {α β : Type}

/-- An item of a selection fails by itself as its note does. -/
theorem alone_selection (source : Source) (e : Expr) :
    s.alone source .selection e = (fun _ => ()) <$> s.output source e := by
  rw [alone, select_eq, Functor.map_map]

theorem alone_failsIn (source : Source) (e : Expr) :
    FailsOnly (s.FailsIn clause e) (s.alone source clause e) := by
  cases clause with
  | filter => exact (condition_failsIn e).map _
  | selection =>
    rw [alone_selection]
    exact (output_failsIn source e).map _
  | order => exact (field_failsIn e).map _
  | limit => exact (integer_failsIn e).map _
  | offset => exact (integer_failsIn e).map _
  | update => exact (value_failsIn e).map _
  | insert => exact .ok ()

/-- The failure has an explanation: if it is a refusal of an expression, there is a culprit. -/
def Explains (s : Scope) (q : Query) (failure : Failure Refusal) : Prop :=
  ∀ clause node flaw, failure = .refused (.invalid clause node flaw) →
    (flaw ≠ some .badKey → ∃ before e after, s.ExprFault q clause node flaw before e after) ∧
    (flaw = some .badKey → clause = .update ∧ ∃ key before g after pairs, node = .field key ∧
      s.KeyFault q.updates key before g after pairs)

/-- The first expression of a clause that fails by itself explains its failure. -/
theorem explains_of_first {before : List Expr} {e : Expr} {after : List Expr}
    {failure : Failure Refusal} (hexprs : q.exprsOf clause = before ++ e :: after)
    (hbefore : ∀ x ∈ before, s.alone q.source clause x = .ok ())
    (hfails : s.alone q.source clause e = .error failure) : s.Explains q failure := by
  rintro clause' node flaw rfl
  obtain ⟨node', flaw', hr, hnode, hflaw⟩ := (alone_failsIn q.source e _ hfails).pointsInto
  cases hr
  constructor
  · refine fun _ => ⟨before, e, after, hexprs, hbefore, hfails, hnode, fun cast hcast => ?_⟩
    cases hflaw _ hcast with
    | badCast h => exact h
  · -- no expression is blamed for a key
    intro hkey
    cases hflaw _ hkey

/-! ### Stages -/

theorem check_explains : FailsOnly (s.Explains q) q.check := by
  unfold Query.check
  split
  · refine FailsOnly.error fun clause node flaw h => ?_
    cases h
  · exact .ok ()

/-- A stage that goes through the expressions of a clause explains its failures. -/
theorem mapM_explains {f : α → Planned β} {expr : α → Expr} {items : List α}
    (hexprs : q.exprsOf clause = items.map expr)
    (halone : ∀ item ∈ items, s.alone q.source clause (expr item) = (fun _ => ()) <$> f item) :
    FailsOnly (s.Explains q) (items.mapM f) := by
  intro failure h
  obtain ⟨before, item, after, rfl, hbefore, hitem⟩ := mapM_eq_error.mp h
  refine explains_of_first (hexprs.trans (List.map_append ..)) (List.forall_mem_map.mpr ?_) ?_
  · intro x hx
    obtain ⟨b, hb⟩ := hbefore x hx
    rw [halone x (List.mem_append_left _ hx), hb]
    rfl
  · rw [halone item (List.mem_append_right _ List.mem_cons_self), hitem]
    rfl

theorem filter_explains : FailsOnly (s.Explains q) (s.filter .filter q.conditions) := by
  have hexprs : q.exprsOf .filter = q.conditions.map id := (List.map_id _).symm
  exact FailsOnly.map _ (mapM_explains hexprs fun _ _ => rfl)

theorem order_explains : FailsOnly (s.Explains q) (s.order q.orderItems) := by
  have hexprs : q.exprsOf .order = q.orderItems.map OrderItem.expr := rfl
  refine FailsOnly.map _ (mapM_explains hexprs fun item _ => ?_)
  unfold alone orderPair
  cases s.field .order item.expr <;> rfl

theorem selection_explains : FailsOnly (s.Explains q) (s.selection q.source q.selection) := by
  have hexprs : q.exprsOf .selection = (q.selection.getD []).map id := (List.map_id _).symm
  rw [selection_eq]
  exact FailsOnly.map _ (mapM_explains hexprs fun e _ => alone_selection q.source e)

/-- The only expression of a clause explains the failure of the clause. -/
theorem integer_explains {e? : Option Expr} (hexprs : q.exprsOf clause = e?.toList)
    (halone : ∀ e, s.alone q.source clause e = (fun _ => ()) <$> s.integer clause (some e)) :
    FailsOnly (s.Explains q) (s.integer clause e?) := by
  cases e? with
  | none => exact .ok 0
  | some e =>
    intro failure h
    refine explains_of_first hexprs (List.forall_mem_nil _) ?_
    rw [halone, h]
    rfl

theorem paging_explains : FailsOnly (s.Explains q) (s.paging q.limit q.offset) := by
  have hlimit : q.exprsOf .limit = q.limit.toList := rfl
  have hoffset : q.exprsOf .offset = q.offset.toList := rfl
  refine (integer_explains hlimit fun _ => rfl).bind fun _ => ?_
  exact (integer_explains hoffset fun _ => rfl).bind fun _ => .ok _

/-! ### Updates -/

/-- A group that cannot be written has a field without a value, the first such one being the
reason, or all its fields have values and the first bad key is the reason. -/
theorem updatePairs_error {fields : List (String × Expr)} {failure : Failure Refusal}
    (h : s.updatePairs fields = .error failure) :
    (∃ before f after, fields = before ++ f :: after ∧
      (∀ x ∈ before, ∃ v, s.value .update x.2 = .ok v) ∧ s.value .update f.2 = .error failure) ∨
    ∃ key pairs,
      List.Forall₂ (fun f p => p.1 = f.1 ∧ f.2.value? s.params = some p.2) fields pairs ∧
      firstBad? (deepKeysOfPairs pairs) = some key ∧
      failure = .refused (.invalid .update (.field key) (some .badKey)) := by
  obtain ⟨cause, hencode, rfl⟩ := inClause_eq_error.mp (map_eq_error.mp h)
  rcases bind_eq_error.mp hencode with hvalues | ⟨pairs, hvalues, hkeys⟩
  · obtain ⟨before, f, after, rfl, hbefore, hf⟩ := mapM_eq_error.mp hvalues
    refine .inl ⟨before, f, after, rfl, fun x hx => ?_, ?_⟩
    · obtain ⟨p, hp⟩ := hbefore x hx
      exact ⟨p.2, value_eq_ok.mpr (field_eval_eq_ok.mp hp).2⟩
    · rcases bind_eq_error.mp hf with heval | ⟨v, -, hpure⟩
      · exact inClause_eq_error.mpr ⟨cause, heval, rfl⟩
      · cases hpure
  · obtain ⟨key, hkey, rfl⟩ := encodePairs_eq_error.mp hkeys
    exact .inr ⟨key, pairs, (mapM_eq_ok.mp hvalues).imp fun f p => field_eval_eq_ok.mp, hkey, rfl⟩

/-- Every expression of a group that can be written has a value by itself. -/
theorem alone_of_updatePairs {fields : List (String × Expr)}
    (h : ∃ pairs, s.updatePairs fields = .ok pairs) (source : Source) :
    ∀ f ∈ fields, s.alone source .update f.2 = .ok () := by
  intro f hf
  obtain ⟨encoded, hencoded⟩ := exists_map_eq_ok.mp h
  obtain ⟨pairs, hvalues, -⟩ := bind_eq_ok.mp (inClause_eq_ok.mp hencoded)
  obtain ⟨p, hp⟩ := exists_mapM_eq_ok.mp ⟨pairs, hvalues⟩ f hf
  have hvalue : s.value .update f.2 = .ok p.2 := value_eq_ok.mpr (field_eval_eq_ok.mp hp).2
  rw [alone, hvalue]
  rfl

/-- A bad key of a group is the key of a field or stands below a value. -/
theorem mem_of_firstBad? {fields : List (String × Expr)} {pairs : List (String × Value)}
    (hvalues : List.Forall₂ (fun f p => p.1 = f.1 ∧ f.2.value? s.params = some p.2) fields pairs)
    {key : String} (h : firstBad? (deepKeysOfPairs pairs) = some key) :
    (key ∈ fields.map Prod.fst ∨ ∃ p ∈ pairs, key ∈ p.2.deepKeys) ∧ ¬ StoreKey key := by
  obtain ⟨before, after, hkeys, -, hbad⟩ := firstBad?_eq_some.mp h
  have hnames : List.Forall₂ Eq (fields.map Prod.fst) (pairs.map Prod.fst) :=
    List.forall₂_map_left_iff.mpr (List.forall₂_map_right_iff.mpr
      (hvalues.imp fun f p hp => hp.1.symm))
  rw [List.forall₂_eq_eq_eq] at hnames
  have hall : ∀ k ∈ deepKeysOfPairs pairs,
      k ∈ pairs.map Prod.fst ∨ ∃ p ∈ pairs, k ∈ p.2.deepKeys :=
    forall_mem_deepKeysOfPairs.mpr fun p hp =>
      ⟨.inl (List.mem_map_of_mem hp), fun k hk => .inr ⟨p, hp, hk⟩⟩
  rw [hnames]
  exact ⟨hall key (by simp [hkeys]), hbad⟩

theorem updateCommand_explains : FailsOnly (s.Explains q) (s.updateCommand q.updates) := by
  intro failure h
  rw [updateCommand_eq_map, map_eq_error] at h
  obtain ⟨before, g, after, hgroups, hbefore, hg⟩ := mapM_eq_error.mp h
  have hearlier : ∀ earlier ∈ before, ∃ pairs, s.updatePairs earlier.fields = .ok pairs :=
    fun earlier hmem => exists_map_eq_ok.mp (hbefore earlier hmem)
  have hrefused := map_eq_error.mp hg
  rcases updatePairs_error hrefused with
    ⟨first, f, rest, hfields, hfirst, hf⟩ | ⟨key, pairs, hvalues, hkey, rfl⟩
  · -- the fields of the groups before and those before it in the group have values
    have hexprs : q.exprsOf .update =
        (before.flatMap UpdateGroup.fields ++ first).map Prod.snd ++
          f.2 :: (rest ++ after.flatMap UpdateGroup.fields).map Prod.snd := by
      rw [Query.exprsOf, Query.updateFields, hgroups]
      simp [hfields]
    refine explains_of_first hexprs (List.forall_mem_map.mpr ?_) ?_
    · rw [List.forall_mem_append]
      constructor
      · intro x hx
        obtain ⟨earlier, hmem, hx⟩ := List.mem_flatMap.mp hx
        exact alone_of_updatePairs (hearlier earlier hmem) q.source x hx
      · intro x hx
        obtain ⟨v, hv⟩ := hfirst x hx
        rw [alone, hv]
        rfl
    · rw [alone, hf]
      rfl
  · obtain ⟨hmem, hbad⟩ := mem_of_firstBad? hvalues hkey
    intro clause node flaw hr
    cases hr
    refine ⟨fun hflaw => absurd rfl hflaw, fun _ => ⟨rfl, key, before, g, after, pairs, rfl, ?_⟩⟩
    exact ⟨hgroups, hearlier, hrefused, hvalues, hmem, hbad⟩

/-! ### Plans -/

theorem find_explains : FailsOnly (s.Explains q) (s.find q) := by
  refine check_explains.bind fun _ => filter_explains.bind fun _ => order_explains.bind fun _ => ?_
  exact selection_explains.bind fun _ => paging_explains.bind fun _ => .ok _

theorem count_explains : FailsOnly (s.Explains q) (s.count q) :=
  check_explains.bind fun _ => filter_explains.bind fun _ => paging_explains.bind fun _ => .ok _

theorem updateAll_explains : FailsOnly (s.Explains q) (s.updateAll q) :=
  check_explains.bind fun _ => filter_explains.bind fun _ =>
    updateCommand_explains.bind fun _ => .ok _

theorem deleteAll_explains : FailsOnly (s.Explains q) (s.deleteAll q) :=
  check_explains.bind fun _ => filter_explains.bind fun _ => .ok _

end Scope

/-- **A refusal points at its culprit.**  If a bulk plan is refused for an expression, and not for a
key, then the refusal points at a node of an expression of that clause: the first one of the clause
that is refused, and by itself it is refused in the same way.  A cast that fails is the innermost
one, on a value that is there.  Only an update is refused for a key.  It is a bad key of the first
group that cannot be written, either of a field or below the value of a field, and all fields of
that group have values. -/
theorem Planner.refusal_points_at_culprit (p : Planner) (q : Query) (params : List Value) :
    ∀ make ∈ [Task.find, Task.count, Task.updateAll, Task.deleteAll], ∀ clause node flaw,
      p.plan (make q params) = .error (.refused (.invalid clause node flaw)) →
      (flaw ≠ some .badKey → ∃ before e after,
        (p.scope q params).ExprFault q clause node flaw before e after) ∧
      (flaw = some .badKey → clause = .update ∧ ∃ key before g after pairs, node = .field key ∧
        (p.scope q params).KeyFault q.updates key before g after pairs) := by
  have hexplains : ∀ make ∈ [Task.find, Task.count, Task.updateAll, Task.deleteAll],
      FailsOnly ((p.scope q params).Explains q) (p.plan (make q params)) := by
    simp only [List.forall_mem_cons, List.not_mem_nil, false_imp_iff, implies_true, and_true]
    refine ⟨?_, ?_, ?_, ?_⟩
    · exact Scope.find_explains.map Plan.find
    · exact Scope.count_explains.map Plan.count
    · exact Scope.updateAll_explains.map Plan.write
    · exact Scope.deleteAll_explains.map Plan.write
  intro make hmake clause node flaw h
  exact hexplains make hmake _ h clause node flaw rfl

/-- In a group whose first key is bad, a cast that fails below another one is reported, and once
that field is mended, the key is. -/
theorem Planner.refusal_points_at_culprit_of_update :
    ∃ (p : Planner) (q q' : Query) (params : List Value) (moment : Expr) (key : String),
      p.plan (.updateAll q params) =
        .error (.refused (.invalid .update moment (some (.badCast .dateTime)))) ∧
      (∃ before e after, (p.scope q params).ExprFault q .update moment (some (.badCast .dateTime))
        before e after) ∧
      p.plan (.updateAll q' params) =
        .error (.refused (.invalid .update (.field key) (some .badKey))) ∧
      ∃ before g after pairs, (p.scope q' params).KeyFault q'.updates key before g after pairs := by
  let number : Expr := .tagged (.param 0) .float
  let moment : Expr := .tagged number .dateTime
  let written : UpdateGroup := { op := .set, fields := [("seen", .tagged (.param 0) .dateTime)] }
  let q (e : Expr) : Query :=
    { source := { coll := "users" }
      updates := [written, { op := .set, fields := [("$inc", number), ("at", e)] }] }
  have hcast : ({} : Planner).plan (.updateAll (q (.tagged moment .uuid)) [.int 3]) =
    .error (.refused (.invalid .update moment (some (.badCast .dateTime)))) := rfl
  have hkey : ({} : Planner).plan (.updateAll (q number) [.int 3]) =
    .error (.refused (.invalid .update (.field "$inc") (some .badKey))) := rfl
  obtain ⟨hfault, -⟩ :=
    refusal_points_at_culprit {} _ _ Task.updateAll (by simp) _ _ _ hcast
  obtain ⟨-, hfault'⟩ := refusal_points_at_culprit {} _ _ Task.updateAll (by simp) _ _ _ hkey
  obtain ⟨-, key, before, g, after, pairs, hnode, hfault'⟩ := hfault' rfl
  cases hnode
  exact ⟨{}, _, _, _, moment, "$inc", hcast, hfault (by decide), hkey, before, g, after, pairs,
    hfault'⟩

end DocQuery
