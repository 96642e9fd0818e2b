import DocQuery.Proofs.NormalPlans
import DocQuery.Request.Json

/-! # What requests bring

Readers of records and lists are put together from the readers of their parts, and what holds of
the parts holds of the whole (`Json.Gives`).  Every value in a request is read by one and the same
reader, whose values are normal.  So all values that a request brings are normal, those inside the
expressions of its query too (`Request.isNormal_of_ofJson`), and all documents of its plan are
proper (`Planner.isProper_of_answer`). -/
namespace DocQuery

/-! ### Readers made of readers -/

namespace Json

/-- The members of a list are read from the items of an array, in order. -/
theorem of_list? {α : Type} {read : Json → Option α} {j : Json} {as : List α}
    (h : j.list? read = some as) :
    ∃ items, j = .arr items ∧ List.Forall₂ (fun j a => read j = some a) items as := by
  unfold list? at h
  split at h
  · rename_i items
    refine ⟨items, rfl, ?_⟩
    induction items generalizing as with
    | nil =>
      cases h
      exact .nil
    | cons j js ih =>
      rw [List.mapM_cons] at h
      obtain ⟨a, ha, h⟩ := Option.bind_eq_some_iff.mp h
      obtain ⟨as', has, h⟩ := Option.bind_eq_some_iff.mp h
      cases h
      exact .cons ha (ih has)
  · cases h

/-- All that the reader accepts is as `P` says. -/
def Gives {α : Type} (read : Json → Option α) (P : α → Prop) : Prop :=
  ∀ j a, read j = some a → P a

namespace Gives
variable {α β : Type} {read : Json → Option α} {P : α → Prop}

theorem list? (h : Gives read P) : Gives (Json.list? read) fun as => ∀ a ∈ as, P a := by
  intro j as hread a ha
  obtain ⟨items, -, hitems⟩ := of_list? hread
  obtain ⟨i, -, hi⟩ := exists_mem_of_forall₂ hitems ha
  exact h i a hi

theorem nullable? (h : Gives read P) : Gives (Json.nullable? read) fun a? => ∀ a ∈ a?, P a := by
  rintro j a? hread a ⟨⟩
  unfold Json.nullable? at hread
  split at hread
  · cases hread
  · obtain ⟨_, ha, ⟨⟩⟩ := Option.map_eq_some_iff.mp hread
    exact h _ a ha

/-- Of a pair, only what its second reader gives is of interest here. -/
theorem pair? (h : Gives read P) {first : Json → Option β} :
    Gives (Json.pair? first read) fun p => P p.2 := by
  intro j p hread
  unfold Json.pair? at hread
  split at hread
  · obtain ⟨_, -, hread⟩ := Option.bind_eq_some_iff.mp hread
    obtain ⟨a, ha, hread⟩ := Option.bind_eq_some_iff.mp hread
    cases hread
    exact h _ a ha
  · cases hread

theorem get? (h : Gives read P) {fields : Fields} {name : String} {a : α}
    (hget : fields.get? name read = some a) : P a := by
  unfold Fields.get? at hget
  split at hget
  · cases hget
  · exact h _ a hget

theorem getD? (h : Gives read P) {fields : Fields} {name : String} {default a : α}
    (hdefault : P default) (hget : fields.getD? name default read = some a) : P a := by
  unfold Fields.getD? at hget
  split at hget
  · cases hget
    exact hdefault
  · exact h _ a hget

end Gives

end Json

/-! ### Expressions and queries -/

theorem Value.gives_ofJson? : Json.Gives Value.ofJson? fun v => v.isNormal = true :=
  fun _ _ => Value.isNormal_of_ofJson?

namespace Expr
variable {emptyContent : Bool}

/-- Every literal in an expression that is read is a value that was read. -/
theorem gives_read? (fuel : Nat) : Json.Gives (read? emptyContent fuel) IsNormal := by
  -- on the fuel, which is what the reader recurses on
  induction fuel with
  | zero =>
    intro j e h
    cases h
  | succ fuel ih =>
    intro j e h
    obtain ⟨⟨name, content⟩, -, h⟩ := Option.bind_eq_some_iff.mp h
    dsimp only at h
    split at h
    case h_1 =>
      split at h
      · cases h
        exact everywhere_source.mpr (by rintro _ ⟨⟩)
      · cases h
    case h_2 | h_4 =>
      obtain ⟨_, -, rfl⟩ := Option.map_eq_some_iff.mp h
      exact List.forall_mem_singleton.mpr (by rintro _ ⟨⟩)
    case h_3 =>
      obtain ⟨v, hv, rfl⟩ := Option.map_eq_some_iff.mp h
      refine everywhere_literal.mpr ?_
      rintro _ ⟨⟩
      exact Value.gives_ofJson? _ v hv
    case h_5 =>
      obtain ⟨_, -, h⟩ := Option.bind_eq_some_iff.mp h
      obtain ⟨_, -, h⟩ := Option.bind_eq_some_iff.mp h
      obtain ⟨_, -, h⟩ := Option.bind_eq_some_iff.mp h
      cases h
      exact everywhere_paramRange.mpr (by rintro _ ⟨⟩)
    case h_6 =>
      obtain ⟨_, -, h⟩ := Option.bind_eq_some_iff.mp h
      obtain ⟨value, hvalue, h⟩ := Option.bind_eq_some_iff.mp h
      obtain ⟨_, -, h⟩ := Option.bind_eq_some_iff.mp h
      cases h
      exact everywhere_tagged.mpr ⟨by rintro _ ⟨⟩, ih.get? hvalue⟩
    case h_7 =>
      obtain ⟨operands, hoperands, rfl⟩ := Option.map_eq_some_iff.mp h
      exact everywhere_and.mpr ⟨by rintro _ ⟨⟩, ih.list? _ operands hoperands⟩
    case h_8 =>
      obtain ⟨operands, hoperands, rfl⟩ := Option.map_eq_some_iff.mp h
      exact everywhere_or.mpr ⟨by rintro _ ⟨⟩, ih.list? _ operands hoperands⟩
    case h_9 =>
      obtain ⟨_, -, h⟩ := Option.bind_eq_some_iff.mp h
      obtain ⟨_, -, h⟩ := Option.bind_eq_some_iff.mp h
      obtain ⟨left, hleft, h⟩ := Option.bind_eq_some_iff.mp h
      obtain ⟨right, hright, h⟩ := Option.bind_eq_some_iff.mp h
      cases h
      exact everywhere_compare.mpr ⟨by rintro _ ⟨⟩, ih.get? hleft, ih.get? hright⟩
    case h_10 =>
      obtain ⟨operand, hoperand, rfl⟩ := Option.map_eq_some_iff.mp h
      exact everywhere_isNil.mpr ⟨by rintro _ ⟨⟩, ih _ operand hoperand⟩
    case h_11 =>
      obtain ⟨operand, hoperand, rfl⟩ := Option.map_eq_some_iff.mp h
      exact everywhere_not.mpr ⟨by rintro _ ⟨⟩, ih _ operand hoperand⟩
    case h_12 => cases h

theorem gives_ofJson? : Json.Gives (ofJson? emptyContent) IsNormal :=
  fun j e h => gives_read? _ j e h

end Expr

section Queries
variable {P : Expr → Prop} {emptyContent : Bool}
  (hexpr : Json.Gives (Expr.ofJson? emptyContent) P)
include hexpr

theorem OrderItem.gives_ofJson? :
    Json.Gives (OrderItem.ofJson? emptyContent) fun item => P item.expr := by
  intro j item h
  obtain ⟨_, -, h⟩ := Option.bind_eq_some_iff.mp h
  obtain ⟨_, -, h⟩ := Option.bind_eq_some_iff.mp h
  obtain ⟨e, he, h⟩ := Option.bind_eq_some_iff.mp h
  cases h
  exact hexpr.get? he

theorem UpdateGroup.gives_ofJson? :
    Json.Gives (UpdateGroup.ofJson? emptyContent) fun group => ∀ f ∈ group.fields, P f.2 := by
  intro j group h
  obtain ⟨_, -, h⟩ := Option.bind_eq_some_iff.mp h
  obtain ⟨_, -, h⟩ := Option.bind_eq_some_iff.mp h
  obtain ⟨fields, hfields, h⟩ := Option.bind_eq_some_iff.mp h
  cases h
  exact hexpr.pair?.list?.get? hfields

theorem Join.gives_ofJson? : Json.Gives (Join.ofJson? emptyContent) fun join => P join.on := by
  intro j join h
  obtain ⟨_, -, h⟩ := Option.bind_eq_some_iff.mp h
  obtain ⟨_, -, h⟩ := Option.bind_eq_some_iff.mp h
  obtain ⟨e, he, h⟩ := Option.bind_eq_some_iff.mp h
  cases h
  exact hexpr.get? he

/-- What holds of all expressions that are read holds of each expression of a query. -/
theorem Query.gives_ofJson? : Json.Gives (Query.ofJson? emptyContent) (Query.Each P) := by
  intro j q h
  obtain ⟨_, -, h⟩ := Option.bind_eq_some_iff.mp h
  obtain ⟨source, -, h⟩ := Option.bind_eq_some_iff.mp h
  obtain ⟨conditions, hconditions, h⟩ := Option.bind_eq_some_iff.mp h
  obtain ⟨orders, horders, h⟩ := Option.bind_eq_some_iff.mp h
  obtain ⟨selection, hselection, h⟩ := Option.bind_eq_some_iff.mp h
  obtain ⟨limit, hlimit, h⟩ := Option.bind_eq_some_iff.mp h
  obtain ⟨offset, hoffset, h⟩ := Option.bind_eq_some_iff.mp h
  obtain ⟨updates, hupdates, h⟩ := Option.bind_eq_some_iff.mp h
  obtain ⟨distinct, hdistinct, h⟩ := Option.bind_eq_some_iff.mp h
  obtain ⟨lock, -, h⟩ := Option.bind_eq_some_iff.mp h
  obtain ⟨joins, hjoins, h⟩ := Option.bind_eq_some_iff.mp h
  obtain ⟨groups, hgroups, h⟩ := Option.bind_eq_some_iff.mp h
  obtain ⟨havings, hhavings, h⟩ := Option.bind_eq_some_iff.mp h
  cases h
  exact {
    conditions := hexpr.list?.getD? (List.forall_mem_nil _) hconditions
    orders := (OrderItem.gives_ofJson? hexpr).list?.list?.getD? (List.forall_mem_nil _) horders
    selection := hexpr.list?.nullable?.getD? (by rintro _ ⟨⟩) hselection
    limit := hexpr.nullable?.getD? (by rintro _ ⟨⟩) hlimit
    offset := hexpr.nullable?.getD? (by rintro _ ⟨⟩) hoffset
    updates := (UpdateGroup.gives_ofJson? hexpr).list?.getD? (List.forall_mem_nil _) hupdates
    distinct := hexpr.nullable?.getD? (by rintro _ ⟨⟩) hdistinct
    joins := (Join.gives_ofJson? hexpr).list?.getD? (List.forall_mem_nil _) hjoins
    groups := hexpr.list?.getD? (List.forall_mem_nil _) hgroups
    havings := hexpr.list?.getD? (List.forall_mem_nil _) hhavings }

end Queries

/-! ### Blank texts -/

namespace Json

/-- Neither signs nor digits are blank. -/
theorem readNumber_of_isBlank {cs : List Char} (h : cs.all Blank.isBlank = true) :
    readNumber cs = none := by
  cases cs with
  | nil => rfl
  | cons c cs =>
    have hc : Blank.isBlank c = true := List.all_eq_true.mp h c List.mem_cons_self
    have hsign : readSign (c :: cs) = (false, c :: cs) := by
      unfold readSign
      split
      · rename_i heq
        cases heq
        exact absurd hc (by decide)
      · rfl
    have hdigit : c.isDigit = false := by
      refine Bool.eq_false_iff.mpr fun hdigit => ?_
      have hrange : 48 ≤ c.toNat ∧ c.toNat ≤ 57 := Char.isDigit_iff_toNat.mp hdigit
      simp only [Blank.isBlank, Bool.or_eq_true, Bool.and_eq_true, decide_eq_true_eq,
        beq_iff_eq] at hc
      omega
    have hspan : Digits.span (c :: cs) = ([], c :: cs) := by
      refine Digits.span_eq (List.forall_mem_nil _) fun c' hc' => ?_
      rwa [← Option.some.inj hc']
    rw [readNumber, hsign]
    simp [hspan]

/-- No value starts with a blank, so there is none in a text of blanks. -/
theorem readFront_of_isBlank {cs : List Char} (h : cs.all Blank.isBlank = true) :
    readFront cs = none := by
  have hskip : (skip cs).all Blank.isBlank = true :=
    List.all_eq_true.mpr fun c hc =>
      List.all_eq_true.mp h c ((List.dropWhile_sublist isSpace).mem hc)
  unfold readFront readValue
  generalize skip cs = ds at hskip
  split
  case h_7 => exact readNumber_of_isBlank hskip
  -- every other value is told by its first character
  all_goals exact absurd (List.all_eq_true.mp hskip _ List.mem_cons_self) (by decide)

end Json

/-! ### Requests -/

namespace Request

/-- The documents that a request for a single record brings. -/
def records : Request → List Document
  | .insert _ _ record => [record]
  | .update _ _ values filter => [values, filter]
  | .delete _ _ filter => [filter]
  | .find .. | .count .. | .updateAll .. | .deleteAll .. => []

/-- What is read as a record is what `make` makes. -/
theorem of_ofRecord {documents : List String}
    {make : String → Option String → Json.Fields → Option Request} {j : Json} {r : Request}
    (h : ofRecord documents make j = .ok r) :
    ∃ coll model fields, make coll model fields = some r := by
  obtain ⟨fields, -, h⟩ := bind_eq_ok.mp h
  dsimp only at h
  split at h
  · rename_i r' hrequest
    cases h
    obtain ⟨coll, -, hrequest⟩ := Option.bind_eq_some_iff.mp hrequest
    obtain ⟨model, -, hrequest⟩ := Option.bind_eq_some_iff.mp hrequest
    exact ⟨coll, model, fields, hrequest⟩
  · cases h

theorem isNormal_of_document? {fields : Json.Fields} {name : String} {d : Document}
    (h : document? fields name = some d) : d.isNormal = true := by
  have hgives : Json.Gives (fun j => (Document.ofJson j).toOption) fun d => d.isNormal = true := by
    intro j d hd
    change (Document.ofJson j).toOption = some d at hd
    cases hj : Document.ofJson j with
    | error e =>
      rw [hj] at hd
      cases hd
    | ok d' =>
      rw [hj] at hd
      cases hd
      exact Document.isNormal_of_ofJson hj
  exact hgives.get? h

theorem of_ofQuery {make : Query → List Value → Request} {j : Json} {r : Request}
    (h : ofQuery make j = .ok r) :
    ∃ q params, queryFields? j = some (q, params) ∧ r = make q params := by
  unfold ofQuery at h
  split at h
  · rename_i q params hfields
    cases h
    exact ⟨q, params, hfields, rfl⟩
  · cases h

/-- What a request is made of: a query with its parameters, or normal documents. -/
theorem of_ofOperation {op : String} {record : Json} {r : Request}
    (h : ofOperation op record = .ok r) :
    (∀ q params, r.query? = some (q, params) → queryFields? record = some (q, params)) ∧
      ∀ d ∈ r.records, d.isNormal = true := by
  unfold ofOperation at h
  split at h
  case h_1 | h_2 | h_3 | h_4 =>
    obtain ⟨q, params, hfields, rfl⟩ := of_ofQuery h
    refine ⟨?_, List.forall_mem_nil _⟩
    rintro _ _ ⟨⟩
    exact hfields
  case h_5 | h_7 =>
    obtain ⟨coll, model, fields, hmake⟩ := of_ofRecord h
    obtain ⟨d, hd, hmake⟩ := Option.bind_eq_some_iff.mp hmake
    cases hmake
    exact ⟨by rintro _ _ ⟨⟩, List.forall_mem_singleton.mpr (isNormal_of_document? hd)⟩
  case h_6 =>
    obtain ⟨coll, model, fields, hmake⟩ := of_ofRecord h
    obtain ⟨values, hvalues, hmake⟩ := Option.bind_eq_some_iff.mp hmake
    obtain ⟨filter, hfilter, hmake⟩ := Option.bind_eq_some_iff.mp hmake
    cases hmake
    refine ⟨by rintro _ _ ⟨⟩, List.forall_mem_cons.mpr ⟨isNormal_of_document? hvalues, ?_⟩⟩
    exact List.forall_mem_singleton.mpr (isNormal_of_document? hfilter)
  case h_8 => cases h

theorem eq_of_checkParams {r r' : Request} (h : checkParams r = .ok r') : r = r' := by
  unfold checkParams at h
  split at h
  · split at h
    · cases h
    · cases h
      rfl
  · cases h
    rfl

/-- A request is the request of the tree at the front of its text. -/
theorem of_parse {s : String} {r : Request} (h : parse s = .ok r) :
    ∃ j rest, Json.readFront s.toList = some (j, rest) ∧ ofJson j = .ok r := by
  unfold parse at h
  split at h
  · cases h
  · split at h
    · cases h
    · rename_i r' hread
      obtain rfl := eq_of_checkParams h
      unfold read at hread
      split at hread
      · cases hread
      · rename_i j rest hfront
        obtain ⟨hfront, -⟩ := Option.filter_eq_some_iff.mp hfront
        split at hread
        · cases hread
        · rename_i hj
          split at hread
          · cases hread
            exact ⟨j, rest, hfront, hj⟩
          · cases hread

theorem isNormal_of_queryFields? {j : Json} {q : Query} {params : List Value}
    (h : queryFields? j = some (q, params)) :
    ∀ v ∈ q.exprs.flatMap Expr.literals ++ params, v.isNormal = true := by
  obtain ⟨fields, -, h⟩ := Option.bind_eq_some_iff.mp h
  obtain ⟨q', hquery, h⟩ := Option.bind_eq_some_iff.mp h
  obtain ⟨params', hparams, h⟩ := Option.bind_eq_some_iff.mp h
  cases h
  have hq : q.Each Expr.IsNormal := (Query.gives_ofJson? Expr.gives_ofJson?).get? hquery
  refine List.forall_mem_append.mpr ⟨fun v hv => ?_, ?_⟩
  · obtain ⟨e, he, hv⟩ := List.mem_flatMap.mp hv
    exact Expr.isNormal_iff_literals.mp (Query.each_iff_exprs.mp hq e he) v hv
  · exact Value.gives_ofJson?.list?.getD? (List.forall_mem_nil _) hparams

/-- All values that a request brings are normal. -/
theorem isNormal_of_ofJson {j : Json} {r : Request} (h : ofJson j = .ok r) (p : Planner) :
    ∀ v ∈ (r.task p).inputs, v.isNormal = true := by
  unfold ofJson at h
  split at h
  · rename_i op record hop
    obtain ⟨hquery, hrecords⟩ := of_ofOperation h
    have hpairs : ∀ d ∈ r.records, ∀ v ∈ d.pairs.map Prod.snd, v.isNormal = true := by
      intro d hd
      exact List.forall_mem_map.mpr (Document.isNormal_iff.mp (hrecords d hd)).2
    cases r with
    | find q params | count q params | updateAll q params | deleteAll q params =>
      exact isNormal_of_queryFields? (hquery q params rfl)
    | insert coll model record => exact hpairs record List.mem_cons_self
    | update coll model values filter =>
      rw [task, Task.inputs, List.map_append, List.forall_mem_append]
      refine ⟨hpairs values List.mem_cons_self, hpairs filter ?_⟩
      exact List.mem_cons_of_mem _ List.mem_cons_self
    | delete coll model filter => exact hpairs filter List.mem_cons_self
  · cases h

end Request

/-- All documents in the plan of a request that was read are proper. -/
theorem Planner.isProper_of_answer {p : Planner} {s : String} {r : Request} {plan : Plan}
    (hparse : Request.parse s = .ok r) (h : p.answer r = .ok plan) :
    ∀ d ∈ plan.documents, d.IsProper := by
  obtain ⟨j, rest, -, hj⟩ := Request.of_parse hparse
  exact isProper_of_plan (Request.isNormal_of_ofJson hj p) h

end DocQuery
