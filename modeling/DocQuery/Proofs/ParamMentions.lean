import DocQuery.Proofs.ParamBounds

/-! # Parameters anywhere in a query

The bound of a query is a maximum over one list of all its expressions, taken with sums that stop
at the largest index there is.  What it is to say has nothing of this: every parameter that the
query mentions, in whatever clause and however deep, is there.  `Query.HasExpr` names the clauses
one by one, `Query.Mentions` goes from their expressions to all nodes, and below the largest index
the bound says of the nodes what it should (`Query.paramBound_le_iff_mentions`). -/
namespace DocQuery.Query

/-- The expression is written in the query: as a whole in one of its clauses, or next to a name or
a direction there. -/
inductive HasExpr (q : Query) : Expr → Prop
  | condition {e : Expr} (h : e ∈ q.conditions) : HasExpr q e
  | order {items : List OrderItem} {item : OrderItem} (hitems : items ∈ q.orders)
      (h : item ∈ items) : HasExpr q item.expr
  | selection {items : List Expr} {e : Expr} (hitems : q.selection = some items) (h : e ∈ items) :
      HasExpr q e
  | limit {e : Expr} (h : q.limit = some e) : HasExpr q e
  | offset {e : Expr} (h : q.offset = some e) : HasExpr q e
  | update {group : UpdateGroup} {name : String} {e : Expr} (hgroup : group ∈ q.updates)
      (h : (name, e) ∈ group.fields) : HasExpr q e
  | distinct {e : Expr} (h : q.distinct = some e) : HasExpr q e
  | join {join : Join} (h : join ∈ q.joins) : HasExpr q join.on
  | group {e : Expr} (h : e ∈ q.groups) : HasExpr q e
  | having {e : Expr} (h : e ∈ q.havings) : HasExpr q e

/-- The expression is a node of the query, at any depth. -/
def Mentions (q : Query) (x : Expr) : Prop := ∃ e, q.HasExpr e ∧ x ∈ e.nodes

variable {q : Query}

/-- No clause is missing from the list of all expressions, and nothing is in it besides. -/
theorem mem_exprs_iff {e : Expr} : e ∈ q.exprs ↔ q.HasExpr e := by
  simp only [exprs, orderItems, updateFields, List.mem_append, List.mem_map, Option.mem_toList,
    List.mem_flatten, List.mem_flatMap]
  constructor
  · rintro (((((((((h | ⟨item, ⟨items, hitems, h⟩, rfl⟩) | h) | h) | h) |
      ⟨⟨name, e⟩, ⟨group, hgroup, h⟩, rfl⟩) | h) | ⟨join, h, rfl⟩) | h) | h)
    · exact .condition h
    · exact .order hitems h
    · cases hselection : q.selection with
      | none =>
        rw [hselection] at h
        cases h
      | some items =>
        rw [hselection] at h
        exact .selection hselection h
    · exact .limit h
    · exact .offset h
    · exact .update hgroup h
    · exact .distinct h
    · exact .join h
    · exact .group h
    · exact .having h
  · intro h
    cases h with
    | condition h => simp [h]
    | @order items item hitems h =>
      have hitem : ∃ a, (∃ l, l ∈ q.orders ∧ a ∈ l) ∧ a.expr = item.expr :=
        ⟨item, ⟨items, hitems, h⟩, rfl⟩
      simp only [hitem, true_or, or_true]
    | selection hitems h => simp [hitems, h]
    | limit h => simp [h]
    | offset h => simp [h]
    | @update group name e hgroup h =>
      have hfield : ∃ a, (∃ g, g ∈ q.updates ∧ a ∈ g.fields) ∧ a.2 = e :=
        ⟨(name, e), ⟨group, hgroup, h⟩, rfl⟩
      simp only [hfield, true_or, or_true]
    | distinct h => simp [h]
    | @join join h =>
      have hjoin : ∃ a, a ∈ q.joins ∧ a.on = join.on := ⟨join, h, rfl⟩
      simp only [hjoin, true_or, or_true]
    | group h => simp [h]
    | having h => simp [h]

/-- The bound as a statement about nodes, one at a time. -/
theorem paramBound_le_iff_fits {n : Nat} (hn : n < Expr.maxBound) :
    q.paramBound ≤ n ↔ ∀ x, q.Mentions x → x.Fits n := by
  rw [paramBound, Expr.paramBounds_le_iff]
  constructor
  · rintro h x ⟨e, he, hx⟩
    exact (Expr.paramBound_le_iff hn e).mp (h e (mem_exprs_iff.mpr he)) x hx
  · intro h e he
    refine (Expr.paramBound_le_iff hn e).mpr fun x hx => ?_
    exact h x ⟨e, mem_exprs_iff.mp he, hx⟩

/-- **The bound of a query is exact.**  For a number of parameters below the largest index there
is, it is at most this number if and only if every parameter that the query mentions is among them,
and every range that it mentions and that is not empty ends within them. -/
theorem paramBound_le_iff_mentions (q : Query) {n : Nat} (hn : n < 2 ^ 64 - 1) :
    q.paramBound ≤ n ↔
      (∀ index, q.Mentions (.param index) → index.toNat < n) ∧
      ∀ start count, q.Mentions (.paramRange start count) → 0 < count.toNat →
        start.toNat + count.toNat ≤ n := by
  rw [paramBound_le_iff_fits hn]
  constructor
  · intro h
    exact ⟨fun index hx => h _ hx, fun start count hx => h _ hx⟩
  · rintro ⟨hparam, hrange⟩ x hx
    cases x with
    | param index => exact hparam index hx
    | paramRange start count => exact hrange start count hx
    | _ => trivial

/-- One below the largest number that the bound is exact for.  The first query stays within it: its
last parameter is in the condition of a join, and a range behind the last index is empty.  The
second has a range of two there, whose end no list of parameters reaches. -/
theorem paramBound_le_iff_mentions_of_last_indices :
    ∃ (n : Nat) (near past : Query), n < 2 ^ 64 - 1 ∧
      near.Mentions (.param 18446744073709551613) ∧ near.paramBound = n ∧
      (∀ index, near.Mentions (.param index) → index.toNat < n) ∧
      past.Mentions (.paramRange 18446744073709551615 2) ∧ ¬past.paramBound ≤ n := by
  let last : Expr := .param 18446744073709551613
  let empty : Expr := .paramRange 18446744073709551615 0
  let behind : Expr := .paramRange 18446744073709551615 2
  let near : Query :=
    { source := { coll := "users" }
      conditions := [.compare .isIn (.field "id") empty]
      joins := [{ coll := "orders", on := .and [.isNil (.field "id"), .tagged last .float] }] }
  let past : Query :=
    { source := { coll := "users" }
      havings := [.not (.compare .isIn (.field "id") behind)] }
  have hn : 18446744073709551614 < 2 ^ 64 - 1 := by decide
  have hnear : near.paramBound = 18446744073709551614 := by decide
  obtain ⟨hparams, -⟩ := (paramBound_le_iff_mentions near hn).mp (Nat.le_of_eq hnear)
  have hlast : near.Mentions last := by
    refine ⟨_, .join List.mem_cons_self, ?_⟩
    simp [Expr.nodes, Expr.allNodes, Expr.self_mem_nodes]
  have hbehind : past.Mentions behind := by
    refine ⟨_, .having List.mem_cons_self, ?_⟩
    simp [Expr.nodes, Expr.self_mem_nodes]
  refine ⟨18446744073709551614, near, past, hn, hlast, hnear, hparams, hbehind, fun hpast => ?_⟩
  obtain ⟨-, hranges⟩ := (paramBound_le_iff_mentions past hn).mp hpast
  exact absurd (hranges _ _ hbehind (by decide)) (by decide)

end DocQuery.Query
