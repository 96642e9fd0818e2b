import DocQuery.Proofs.ExprNodes
import DocQuery.Proofs.PlainValues
import DocQuery.Query.Json

/-! # Queries read back from their text

A query is written with all its clauses, and read with defaults for those that are left out, so
there are more trees for a query than the one that is written.  The one that is written is read
as the query itself, if its literals are plain (`Query.parse?_text_of_plain`).

Reading is undone shape by shape: indices, words, lists and nullable fields first, then
expressions, by induction with the depth of the tree as the bound on the fuel, then clauses. -/
namespace DocQuery

/-! ### Shapes -/

namespace Json
variable {α β : Type} {read : Json → Option β} {write : α → Json} {g : α → β}

theorem index?_toNat (n : UInt64) : index? (.int n.toNat) = some n := by
  have hn := n.toNat_lt_size
  rw [index?, if_pos (by omega), Int.toNat_natCast, UInt64.ofNat_toNat]

theorem list?_map_of {as : List α} (hread : ∀ a ∈ as, read (write a) = some (g a)) :
    list? read (.arr (as.map write)) = some (as.map g) := by
  change (as.map write).mapM read = some (as.map g)
  induction as with
  | nil => rfl
  | cons a as ih =>
    obtain ⟨ha, has⟩ := List.forall_mem_cons.mp hread
    rw [List.map_cons, List.mapM_cons, ha, ih has]
    rfl

/-- What is written must not be `null`, which stands for nothing. -/
theorem nullable?_orNull_of {o : Option α} (hread : ∀ a ∈ o, read (write a) = some (g a))
    (hnull : ∀ a, write a ≠ .null) : nullable? read (orNull write o) = some (o.map g) := by
  cases o with
  | none => rfl
  | some a =>
    have ha : nullable? read (write a) = (read (write a)).map some := by
      unfold nullable?
      split
      · rename_i heq
        exact absurd heq (hnull a)
      · rfl
    rw [orNull, ha, hread a rfl]
    rfl

theorem list?_map {read : Json → Option α} {as : List α}
    (hread : ∀ a ∈ as, read (write a) = some a) : list? read (.arr (as.map write)) = some as :=
  (list?_map_of hread).trans (congrArg some as.map_id)

theorem nullable?_orNull {read : Json → Option α} {o : Option α}
    (hread : ∀ a ∈ o, read (write a) = some a) (hnull : ∀ a, write a ≠ .null) :
    nullable? read (orNull write o) = some o :=
  (nullable?_orNull_of hread hnull).trans (congrArg some Option.map_id_apply)

theorem nullable?_orNull_str (o : Option String) : nullable? string? (orNull .str o) = some o :=
  nullable?_orNull (fun _ _ => rfl) nofun

@[simp] theorem isExact_toNat (n : UInt64) : (Json.int n.toNat).isExact = true := by
  have hn := n.toNat_lt
  rw [isExact, decide_eq_true_eq]
  omega

@[simp] theorem isExact_orNull {o : Option α} :
    (orNull write o).isExact = true ↔ ∀ a ∈ o, (write a).isExact = true := by
  cases o <;> simp [orNull, isExact]

theorem depth_le_itemsDepth {j : Json} {js : List Json} (hj : j ∈ js) :
    j.depth ≤ itemsDepth js := by
  induction js with
  | nil => cases hj
  | cons i js ih =>
    rw [itemsDepth]
    rcases List.mem_cons.mp hj with rfl | hj
    · exact Nat.le_max_left _ _
    · exact Nat.le_trans (ih hj) (Nat.le_max_right _ _)

end Json

/-! ### Expressions -/

namespace Expr

/-- If the expression is a literal, its value is plain. -/
def LiteralIsPlain : Expr → Prop
  | .literal value => value.IsPlain
  | _ => True

instance : DecidablePred LiteralIsPlain
  | .literal value => inferInstanceAs (Decidable value.IsPlain)
  | .field _ | .source | .param _ | .paramRange .. | .tagged .. | .and _ | .or _ | .compare ..
  | .isNil _ | .not _ => .isTrue trivial

/-- All literals in the expression are plain. -/
def IsPlain (e : Expr) : Prop := e.Everywhere LiteralIsPlain

instance (e : Expr) : Decidable e.IsPlain :=
  inferInstanceAs (Decidable (∀ x ∈ e.nodes, x.LiteralIsPlain))

theorem toJson_ne_null (e : Expr) : e.toJson ≠ .null := by
  cases e <;> nofun

theorem allToJson_eq_map (es : List Expr) : allToJson es = es.map toJson := by
  induction es with
  | nil => rfl
  | cons e es ih => rw [allToJson, ih, List.map_cons]

/-- The operands of a connective are read back if each of them is. -/
theorem list?_operands {read : Json → Option Expr} {operands : List Expr} {fuel : Nat}
    (hread : ∀ e ∈ operands, e.toJson.depth < fuel → read e.toJson = some e)
    (hdepth : Json.itemsDepth (allToJson operands) < fuel) :
    Json.list? read (.arr (allToJson operands)) = some operands := by
  rw [allToJson_eq_map] at hdepth ⊢
  refine Json.list?_map fun e he => hread e he ?_
  exact Nat.lt_of_le_of_lt (Json.depth_le_itemsDepth (List.mem_map_of_mem he)) hdepth

/-- An expression is read back from its tree, with fuel for the depth of the tree. -/
theorem read?_toJson (emptyContent : Bool) {e : Expr} (he : e.IsPlain) {fuel : Nat}
    (hfuel : e.toJson.depth < fuel) : read? emptyContent fuel e.toJson = some e := by
  -- every call goes into a container, so the fuel gives the induction
  induction fuel generalizing e with
  | zero => exact absurd hfuel (Nat.not_lt_zero _)
  | succ fuel ih =>
    cases e with
    | field name => rfl
    | source => rfl
    | literal value =>
      have hvalue : value.IsPlain := everywhere_literal.mp he
      change (Value.ofJson? value.toJson).map literal = _
      rw [hvalue.ofJson?_toJson]
      rfl
    | param index =>
      have hread (j : Json) : read? emptyContent (fuel + 1) (.obj [("param", j)]) =
          j.index?.map param := rfl
      rw [toJson, hread, Json.index?_toNat, Option.map_some]
    | paramRange start count =>
      have hread (i j : Json) :
          read? emptyContent (fuel + 1) (.obj [("param_range", .obj [("start", i), ("len", j)])]) =
            i.index?.bind fun start => j.index?.bind fun count => some (paramRange start count) :=
        rfl
      rw [toJson, hread, Json.index?_toNat, Json.index?_toNat, Option.bind_some, Option.bind_some]
    | tagged value cast =>
      obtain ⟨-, hvalue⟩ := everywhere_tagged.mp he
      simp only [toJson, Json.depth, Json.pairsDepth] at hfuel
      change (read? emptyContent fuel value.toJson >>= fun value =>
        Cast.ofWord? cast.word >>= fun cast => some (tagged value cast)) = _
      rw [ih hvalue (by omega), Cast.ofWord?_word]
      rfl
    | and operands =>
      obtain ⟨-, hoperands⟩ := everywhere_and.mp he
      simp only [toJson, Json.depth, Json.pairsDepth] at hfuel
      change (Json.list? (read? emptyContent fuel) (.arr (allToJson operands))).map and = _
      rw [list?_operands (fun e he hdepth => ih (hoperands e he) hdepth) (by omega)]
      rfl
    | or operands =>
      obtain ⟨-, hoperands⟩ := everywhere_or.mp he
      simp only [toJson, Json.depth, Json.pairsDepth] at hfuel
      change (Json.list? (read? emptyContent fuel) (.arr (allToJson operands))).map or = _
      rw [list?_operands (fun e he hdepth => ih (hoperands e he) hdepth) (by omega)]
      rfl
    | compare op left right =>
      obtain ⟨-, hleft, hright⟩ := everywhere_compare.mp he
      simp only [toJson, Json.depth, Json.pairsDepth] at hfuel
      change (CompareOp.ofWord? op.word >>= fun op => read? emptyContent fuel left.toJson >>=
        fun left => read? emptyContent fuel right.toJson >>= fun right =>
          some (compare op left right)) = _
      rw [CompareOp.ofWord?_word, ih hleft (by omega), ih hright (by omega)]
      rfl
    | isNil operand =>
      obtain ⟨-, hoperand⟩ := everywhere_isNil.mp he
      simp only [toJson, Json.depth, Json.pairsDepth] at hfuel
      change (read? emptyContent fuel operand.toJson).map isNil = _
      rw [ih hoperand (by omega)]
      rfl
    | not operand =>
      obtain ⟨-, hoperand⟩ := everywhere_not.mp he
      simp only [toJson, Json.depth, Json.pairsDepth] at hfuel
      change (read? emptyContent fuel operand.toJson).map not = _
      rw [ih hoperand (by omega)]
      rfl

theorem IsPlain.ofJson?_toJson {e : Expr} (he : e.IsPlain) (emptyContent : Bool) :
    ofJson? emptyContent e.toJson = some e :=
  read?_toJson emptyContent he (Nat.lt_add_one _)

/-- The tree of an expression is read back from its text as it is. -/
theorem IsPlain.isExact_toJson {e : Expr} (he : e.IsPlain) : e.toJson.isExact = true := by
  unfold IsPlain at he
  induction e with
  | field name => simp [toJson]
  | source => rfl
  | literal value =>
    have hvalue : value.IsPlain := everywhere_literal.mp he
    simp [toJson, hvalue.isExact_toJson]
  | param index => simp [toJson]
  | paramRange start count => simp [toJson]
  | tagged value cast ih =>
    obtain ⟨-, hvalue⟩ := everywhere_tagged.mp he
    simp [toJson, ih hvalue]
  | and operands ih =>
    obtain ⟨-, hoperands⟩ := everywhere_and.mp he
    simpa [toJson, allToJson_eq_map] using fun e he => ih e he (hoperands e he)
  | or operands ih =>
    obtain ⟨-, hoperands⟩ := everywhere_or.mp he
    simpa [toJson, allToJson_eq_map] using fun e he => ih e he (hoperands e he)
  | compare op left right ihleft ihright =>
    obtain ⟨-, hleft, hright⟩ := everywhere_compare.mp he
    simp [toJson, ihleft hleft, ihright hright]
  | isNil operand ih =>
    obtain ⟨-, hoperand⟩ := everywhere_isNil.mp he
    simp [toJson, ih hoperand]
  | not operand ih =>
    obtain ⟨-, hoperand⟩ := everywhere_not.mp he
    simp [toJson, ih hoperand]

end Expr

/-! ### Clauses -/

theorem Source.ofJson?_toJson (s : Source) : ofJson? s.toJson = some s := by
  change (Json.nullable? Json.string? (.orNull .str s.model) >>= fun model =>
    some (Source.mk s.coll model)) = some s
  rw [Json.nullable?_orNull_str]
  rfl

theorem OrderItem.ofJson?_toJson (emptyContent : Bool) {item : OrderItem}
    (hexpr : item.expr.IsPlain) : ofJson? emptyContent item.toJson = some item := by
  change (Direction.ofWord? item.direction.word >>= fun direction =>
    Expr.ofJson? emptyContent item.expr.toJson >>= fun expr =>
      some (OrderItem.mk direction expr)) = some item
  rw [Direction.ofWord?_word, hexpr.ofJson?_toJson]
  rfl

theorem Join.ofJson?_toJson (emptyContent : Bool) {join : Join} (hon : join.on.IsPlain) :
    ofJson? emptyContent join.toJson = some join := by
  change (Expr.ofJson? emptyContent join.on.toJson >>= fun on =>
    some (Join.mk join.coll on)) = some join
  rw [hon.ofJson?_toJson]
  rfl

theorem UpdateGroup.fieldsOfJson?_fieldsToJson (emptyContent : Bool)
    {fields : List (String × Expr)} (hfields : ∀ f ∈ fields, f.2.IsPlain) :
    fieldsOfJson? emptyContent (fieldsToJson fields) = some fields := by
  refine Json.list?_map fun (name, e) hf => ?_
  change (Expr.ofJson? emptyContent e.toJson >>= fun e => some (name, e)) = _
  rw [(hfields _ hf).ofJson?_toJson]
  rfl

theorem UpdateGroup.ofJson?_toJson (emptyContent : Bool) {group : UpdateGroup}
    (hfields : ∀ f ∈ group.fields, f.2.IsPlain) :
    ofJson? emptyContent group.toJson = some group := by
  change (UpdateOp.ofWord? group.op.word >>= fun op =>
    fieldsOfJson? emptyContent (fieldsToJson group.fields) >>= fun fields =>
      some (UpdateGroup.mk op fields)) = some group
  rw [UpdateOp.ofWord?_word, fieldsOfJson?_fieldsToJson emptyContent hfields]
  rfl

/-! ### Whole queries -/

/-- The expressions of a query are as `P` says, clause by clause. -/
structure Query.Each (P : Expr → Prop) (q : Query) : Prop where
  conditions : ∀ e ∈ q.conditions, P e
  orders : ∀ items ∈ q.orders, ∀ item ∈ items, P item.expr
  selection : ∀ items ∈ q.selection, ∀ e ∈ items, P e
  limit : ∀ e ∈ q.limit, P e
  offset : ∀ e ∈ q.offset, P e
  updates : ∀ group ∈ q.updates, ∀ f ∈ group.fields, P f.2
  distinct : ∀ e ∈ q.distinct, P e
  joins : ∀ join ∈ q.joins, P join.on
  groups : ∀ e ∈ q.groups, P e
  havings : ∀ e ∈ q.havings, P e

theorem Query.each_iff_exprs {P : Expr → Prop} {q : Query} : q.Each P ↔ ∀ e ∈ q.exprs, P e := by
  simp only [exprs, List.forall_mem_append, List.forall_mem_map, Option.mem_toList]
  constructor
  · intro h
    refine ⟨⟨⟨⟨⟨⟨⟨⟨⟨h.conditions, fun item hitem => ?_⟩, fun e he => ?_⟩, h.limit⟩, h.offset⟩,
      fun f hf => ?_⟩, h.distinct⟩, h.joins⟩, h.groups⟩, h.havings⟩
    · obtain ⟨items, hitems, hitem⟩ := List.mem_flatten.mp hitem
      exact h.orders items hitems item hitem
    · cases hselection : q.selection with
      | none =>
        rw [hselection] at he
        cases he
      | some items =>
        rw [hselection] at he
        exact h.selection items hselection e he
    · obtain ⟨group, hgroup, hf⟩ := List.mem_flatMap.mp hf
      exact h.updates group hgroup f hf
  · rintro ⟨⟨⟨⟨⟨⟨⟨⟨⟨hconditions, horders⟩, hselection⟩, hlimit⟩, hoffset⟩, hupdates⟩, hdistinct⟩,
      hjoins⟩, hgroups⟩, hhavings⟩
    exact {
      conditions := hconditions
      orders := fun items hitems item hitem =>
        horders item (List.mem_flatten.mpr ⟨items, hitems, hitem⟩)
      selection := fun items hitems e he => hselection e (by rw [hitems]; exact he)
      limit := hlimit
      offset := hoffset
      updates := fun group hgroup f hf => hupdates f (List.mem_flatMap.mpr ⟨group, hgroup, hf⟩)
      distinct := hdistinct
      joins := hjoins
      groups := hgroups
      havings := hhavings }

namespace Query

/-- A query with plain literals is read back from its tree. -/
theorem ofJson?_toJson (emptyContent : Bool) {q : Query} (hq : q.Each Expr.IsPlain) :
    ofJson? emptyContent q.toJson = some q := by
  have hlist {es : List Expr} (hes : ∀ e ∈ es, e.IsPlain) :
      Json.list? (Expr.ofJson? emptyContent) (.arr (es.map Expr.toJson)) = some es :=
    Json.list?_map fun e he => (hes e he).ofJson?_toJson emptyContent
  have hnullable {o : Option Expr} (ho : ∀ e ∈ o, e.IsPlain) :
      Json.nullable? (Expr.ofJson? emptyContent) (.orNull Expr.toJson o) = some o :=
    Json.nullable?_orNull (fun e he => (ho e he).ofJson?_toJson emptyContent) Expr.toJson_ne_null
  have horders : Json.list? (Json.list? (OrderItem.ofJson? emptyContent))
      (.arr (q.orders.map fun items => .arr (items.map OrderItem.toJson))) = some q.orders :=
    Json.list?_map fun items hitems => Json.list?_map fun item hitem =>
      OrderItem.ofJson?_toJson emptyContent (hq.orders items hitems item hitem)
  have hselection : Json.nullable? (Json.list? (Expr.ofJson? emptyContent))
      (.orNull (fun items => .arr (items.map Expr.toJson)) q.selection) = some q.selection :=
    Json.nullable?_orNull (fun items hitems => hlist (hq.selection items hitems)) nofun
  have hupdates : Json.list? (UpdateGroup.ofJson? emptyContent)
      (.arr (q.updates.map UpdateGroup.toJson)) = some q.updates :=
    Json.list?_map fun group hgroup =>
      UpdateGroup.ofJson?_toJson emptyContent (hq.updates group hgroup)
  have hjoins : Json.list? (Join.ofJson? emptyContent) (.arr (q.joins.map Join.toJson)) =
      some q.joins :=
    Json.list?_map fun join hjoin => Join.ofJson?_toJson emptyContent (hq.joins join hjoin)
  -- each field is found under its own name
  change (do
    let source ← Source.ofJson? q.source.toJson
    let conditions ← Json.list? (Expr.ofJson? emptyContent) (.arr (q.conditions.map Expr.toJson))
    let orders ← Json.list? (Json.list? (OrderItem.ofJson? emptyContent))
      (.arr (q.orders.map fun items => .arr (items.map OrderItem.toJson)))
    let selection ← Json.nullable? (Json.list? (Expr.ofJson? emptyContent))
      (.orNull (fun items => .arr (items.map Expr.toJson)) q.selection)
    let limit ← Json.nullable? (Expr.ofJson? emptyContent) (.orNull Expr.toJson q.limit)
    let offset ← Json.nullable? (Expr.ofJson? emptyContent) (.orNull Expr.toJson q.offset)
    let updates ← Json.list? (UpdateGroup.ofJson? emptyContent)
      (.arr (q.updates.map UpdateGroup.toJson))
    let distinct ← Json.nullable? (Expr.ofJson? emptyContent) (.orNull Expr.toJson q.distinct)
    let lock ← Json.nullable? Json.string? (.orNull .str q.lock)
    let joins ← Json.list? (Join.ofJson? emptyContent) (.arr (q.joins.map Join.toJson))
    let groups ← Json.list? (Expr.ofJson? emptyContent) (.arr (q.groups.map Expr.toJson))
    let havings ← Json.list? (Expr.ofJson? emptyContent) (.arr (q.havings.map Expr.toJson))
    some (Query.mk source conditions orders selection limit offset updates distinct lock joins
      groups havings)) = some q
  rw [Source.ofJson?_toJson, hlist hq.conditions, horders, hselection, hnullable hq.limit,
    hnullable hq.offset, hupdates, hnullable hq.distinct, Json.nullable?_orNull_str, hjoins, hlist hq.groups,
    hlist hq.havings]
  rfl

/-- The tree of a query with plain literals is read back from its text as it is. -/
theorem isExact_toJson {q : Query} (hq : q.Each Expr.IsPlain) : q.toJson.isExact = true := by
  have hsource : q.source.toJson.isExact = true := by simp [Source.toJson]
  have horder (item : OrderItem) (he : item.expr.IsPlain) : item.toJson.isExact = true := by
    simp [OrderItem.toJson, he.isExact_toJson]
  have hupdate (group : UpdateGroup) (hfields : ∀ f ∈ group.fields, f.2.IsPlain) :
      group.toJson.isExact = true := by
    simp only [UpdateGroup.toJson, UpdateGroup.fieldsToJson, Json.isExact_obj, Json.isExact_arr,
      Json.isExact_str, List.forall_mem_cons, List.forall_mem_map]
    exact ⟨trivial, fun f hf => ⟨trivial, (hfields f hf).isExact_toJson, List.forall_mem_nil _⟩,
      List.forall_mem_nil _⟩
  have hjoin (join : Join) (hon : join.on.IsPlain) : join.toJson.isExact = true := by
    simp [Join.toJson, hon.isExact_toJson]
  simp only [toJson, Json.isExact_obj, Json.isExact_arr, Json.isExact_orNull, Json.isExact_str,
    List.forall_mem_cons, List.forall_mem_map]
  exact ⟨hsource, fun e he => (hq.conditions e he).isExact_toJson,
    fun items hitems item hitem => horder item (hq.orders items hitems item hitem),
    fun items hitems e he => (hq.selection items hitems e he).isExact_toJson,
    fun e he => (hq.limit e he).isExact_toJson, fun e he => (hq.offset e he).isExact_toJson,
    fun group hgroup => hupdate group (hq.updates group hgroup),
    fun e he => (hq.distinct e he).isExact_toJson, fun _ _ => trivial,
    fun join hj => hjoin join (hq.joins join hj),
    fun e he => (hq.groups e he).isExact_toJson, fun e he => (hq.havings e he).isExact_toJson,
    List.forall_mem_nil _⟩

/-- **A query with plain literals is what its text says**, unless the text is nested too deep. -/
theorem parse?_text_of_plain (q : Query) (hplain : ∀ e ∈ q.exprs, e.IsPlain)
    (hdepth : q.toJson.depth ≤ Json.nestingLimit) : parse? q.text = some q := by
  have hq : q.Each Expr.IsPlain := each_iff_exprs.mpr hplain
  have htree : Json.parse? q.text = some q.toJson :=
    Json.parse?_text_of_isExact (isExact_toJson hq) hdepth
  rw [parse?, htree, Option.bind_some, ofJson?_toJson false hq]

/-- A query with every kind of expression, the largest index and a literal with a repeated key. -/
def varied : Query where
  source := { coll := "users", model := some "\u0007" }
  conditions :=
    [.and [.or [], .not (.isNil (.field "a\"b"))],
      .compare .isIn (.field "é") (.paramRange 18446744073709551615 0),
      .compare .eq .source (.literal (.document (.entries
        [("k", .int (-9223372036854775808)), ("k", .array [.null, .bool true]),
          ("k", .document .empty), ("", .string "\n")])))]
  orders := [[], [⟨.descending, .field "a"⟩, ⟨.ascending, .source⟩]]
  selection := some []
  limit := some (.param 18446744073709551615)
  updates := [⟨.pull, [("tags", .tagged (.param 0) .dateTime), ("tags", .source)]⟩]
  lock := some ""
  joins := [⟨"posts", .source⟩]

theorem parse?_text_varied : (∀ e ∈ varied.exprs, e.IsPlain) ∧
    varied.toJson.depth ≤ Json.nestingLimit ∧ parse? varied.text = some varied := by
  have hplain : ∀ e ∈ varied.exprs, e.IsPlain := by decide
  have hdepth : varied.toJson.depth ≤ Json.nestingLimit := by decide
  exact ⟨hplain, hdepth, parse?_text_of_plain varied hplain hdepth⟩

end Query
end DocQuery
