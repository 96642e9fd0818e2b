import DocQuery.Proofs.BulkPlans

/-! # Filters and orders are planned item by item

A filter has one pair for each condition and an order one pair for each item, side by side and in
the order given.  Both are `planPairs` of what is done with a single item, and what follows from
that is said here once for both.  Planning a concatenation is planning its parts and joining the
documents, with the failure of the first part that fails (`Concatenates`); no pair is dropped,
merged or moved (`OnePairEach`).  So a filter says nothing only if there was no condition, which is
what keeps a deletion from reaching more than it should.

The items of an order come in groups, but planning goes by the items alone: the groups can be
planned one by one, or be cut in any other way (`Scope.filter_and_order_concatenate`). -/
namespace DocQuery

namespace Document

theorem ofPairs_append (ps qs : List (String × Value)) :
    ofPairs (ps ++ qs) = ofPairs ps ++ ofPairs qs := by
  cases ps with
  | nil => rfl
  | cons p ps =>
    cases qs with
    | nil => rw [List.append_nil]; rfl
    | cons q qs => rfl

theorem ofPairs_eq_empty {ps : List (String × Value)} : ofPairs ps = .empty ↔ ps = [] := by
  cases ps <;> simp [ofPairs]

/-- Documents one after the other. -/
def join (ds : List Document) : Document := ds.foldr (· ++ ·) .empty

end Document

/-! ### One pair for each item -/

section Items
variable {α : Type}

/-- The document that has the pair of each item. -/
def planPairs (pair : α → Planned (String × Value)) (items : List α) : Planned Document :=
  Document.ofPairs <$> items.mapM pair

/-- A concatenation is planned as its parts are: it fails as the first part that fails, and
otherwise the documents are joined. -/
structure Concatenates (plan : List α → Planned Document) : Prop where
  fails_left : ∀ as bs failure, plan as = .error failure → plan (as ++ bs) = .error failure
  fails_right : ∀ as bs d failure, plan as = .ok d → plan bs = .error failure →
    plan (as ++ bs) = .error failure
  append : ∀ as bs d e, plan as = .ok d → plan bs = .ok e → plan (as ++ bs) = .ok (d ++ e)

/-- A planned document has one pair for each item. -/
structure OnePairEach (pair : α → Planned (String × Value)) (plan : List α → Planned Document) :
    Prop where
  size : ∀ items d, plan items = .ok d → d.size = items.length
  /-- The pair at each position is that of the item at this position. -/
  pairs : ∀ items d, plan items = .ok d → List.Forall₂ (fun a p => pair a = .ok p) items d.pairs
  empty_iff : ∀ items d, plan items = .ok d → (d = .empty ↔ items = [])

variable (pair : α → Planned (String × Value))

/-- Both parts are planned, the first one first, and their documents joined. -/
theorem planPairs_append (as bs : List α) :
    planPairs pair (as ++ bs) = (do
      let d ← planPairs pair as
      let e ← planPairs pair bs
      pure (d ++ e)) := by
  simp only [planPairs, List.mapM_append, map_bind, bind_map_left, map_pure,
    Document.ofPairs_append]

/-- Groups can be planned one by one. -/
theorem planPairs_flatten (groups : List (List α)) :
    planPairs pair groups.flatten = Document.join <$> groups.mapM (planPairs pair) := by
  induction groups with
  | nil => rfl
  | cons group groups ih =>
    -- both sides plan the first group, then the others, and join at the end
    rw [List.flatten_cons, planPairs_append, ih, List.mapM_cons]
    simp only [map_bind, bind_map_left, map_pure]
    rfl

theorem concatenates_of_append {β : Type} {plan : List β → Planned Document}
    (h : ∀ as bs, plan (as ++ bs) = (do
      let d ← plan as
      let e ← plan bs
      pure (d ++ e))) : Concatenates plan := by
  constructor
  · intro as bs failure has
    rw [h, has]
    rfl
  · intro as bs d failure has hbs
    rw [h, has, hbs]
    rfl
  · intro as bs d e has hbs
    rw [h, has, hbs]
    rfl

theorem planPairs_onePairEach : OnePairEach pair (planPairs pair) := by
  have hpairs {items : List α} {d : Document} (h : planPairs pair items = .ok d) :
      List.Forall₂ (fun a p => pair a = .ok p) items d.pairs ∧ d = .ofPairs d.pairs := by
    obtain ⟨ps, hps, rfl⟩ := map_eq_ok.mp h
    rw [Document.pairs_ofPairs]
    exact ⟨mapM_eq_ok.mp hps, rfl⟩
  constructor
  case size =>
    intro items d h
    exact (hpairs h).1.length_eq.symm
  case pairs =>
    intro items d h
    exact (hpairs h).1
  case empty_iff =>
    intro items d h
    obtain ⟨hitems, hd⟩ := hpairs h
    rw [hd, Document.ofPairs_eq_empty, ← List.length_eq_zero_iff, ← hitems.length_eq,
      List.length_eq_zero_iff]

end Items

/-! ### Filters and orders -/

namespace Scope
variable (s : Scope) (clause : Clause)

theorem filter_eq_planPairs : s.filter clause = planPairs (s.condition clause) := rfl

theorem order_eq_planPairs : s.order = planPairs s.orderPair := rfl

/-- Only the items of all orders in a row matter to a find, not how they are grouped. -/
theorem find_regrouped {q : Query} {orders : List (List OrderItem)}
    (h : orders.flatten = q.orders.flatten) : s.find { q with orders } = s.find q := by
  have hitems : ({ q with orders } : Query).orderItems = q.orderItems := h
  unfold find
  rw [hitems]
  rfl

variable {s} in
/-- A bulk write without a filter comes from a query without conditions. -/
theorem filter_eq_empty_of_write {q : Query} {w : Write}
    (h : s.deleteAll q = .ok w ∨ s.updateAll q = .ok w) :
    w.filter = .empty ↔ q.conditions = [] := by
  have hmatching : s.matching q = .ok w.filter := by
    rcases h with hdelete | hupdate
    · exact matching_of_deleteAll hdelete
    · exact matching_of_updateAll hupdate
  obtain ⟨_, -, hfilter⟩ := bind_eq_ok.mp hmatching
  exact (planPairs_onePairEach _).empty_iff q.conditions w.filter hfilter

/-- **Filters and orders are planned item by item.**  Planning a concatenation of conditions, or of
groups of order items, is planning the parts and joining the documents, and a planned document has
one pair for each condition or order item.  Groups of order items can be planned one by one, and
grouping them otherwise changes no find.  In particular, bulk writes have a filter unless there are
no conditions. -/
theorem filter_and_order_concatenate :
    Concatenates (s.filter clause) ∧ OnePairEach (s.condition clause) (s.filter clause) ∧
    Concatenates (fun orders : List (List OrderItem) => s.order orders.flatten) ∧
    OnePairEach s.orderPair s.order ∧
    (∀ orders : List (List OrderItem),
      s.order orders.flatten = Document.join <$> orders.mapM s.order) ∧
    (∀ (q : Query) (orders : List (List OrderItem)), orders.flatten = q.orders.flatten →
      s.find { q with orders } = s.find q) ∧
    ∀ q w, s.deleteAll q = .ok w ∨ s.updateAll q = .ok w →
      (w.filter = .empty ↔ q.conditions = []) := by
  rw [filter_eq_planPairs, order_eq_planPairs]
  refine ⟨?_, ?_, ?_, ?_, ?_, ?_, ?_⟩
  · exact concatenates_of_append (planPairs_append _)
  · exact planPairs_onePairEach _
  · refine concatenates_of_append fun as bs => ?_
    rw [List.flatten_append]
    exact planPairs_append _ _ _
  · exact planPairs_onePairEach _
  · exact planPairs_flatten _
  · exact fun q orders h => s.find_regrouped h
  · exact fun q w h => filter_eq_empty_of_write h

/-- Two conditions on one field, joined, keep both pairs; with a condition that is none before them,
its refusal is the refusal of all. -/
theorem filter_and_order_concatenate_of_repeats :
    ∃ (s : Scope) (as bs bad : List Expr) (d e : Document) (failure : Failure Refusal)
      (orders : List (List OrderItem)) (order : Document),
      s.filter .filter as = .ok d ∧ s.filter .filter bs = .ok e ∧
      s.filter .filter (as ++ bs) = .ok (d ++ e) ∧ (d ++ e).keys = ["age", "age"] ∧
      s.filter .filter bad = .error failure ∧ s.filter .filter (bad ++ as) = .error failure ∧
      s.filter .filter (as ++ bad) = .error failure ∧
      s.order orders.flatten = .ok order ∧
      Document.join <$> orders.mapM s.order = .ok order ∧ order.size = 3 := by
  let s : Scope := { identityKey := "_id" }
  let as : List Expr := [.compare .gt (.field "age") (.literal (.int 18))]
  let bs : List Expr := [.compare .lt (.field "age") (.literal (.int 65))]
  let bad : List Expr := [.field "age"]
  let orders : List (List OrderItem) :=
    [[{ direction := .ascending, expr := .field "age" }], [],
      [{ direction := .descending, expr := .field "name" },
        { direction := .ascending, expr := .field "age" }]]
  obtain ⟨hfilter, -, -, hitems, hgroups, -⟩ := filter_and_order_concatenate s .filter
  obtain ⟨d, hd⟩ : ∃ d, s.filter .filter as = .ok d := ⟨_, rfl⟩
  obtain ⟨e, he⟩ : ∃ e, s.filter .filter bs = .ok e := ⟨_, rfl⟩
  obtain ⟨failure, hbad⟩ : ∃ failure, s.filter .filter bad = .error failure := ⟨_, rfl⟩
  obtain ⟨order, horder⟩ : ∃ order, s.order orders.flatten = .ok order := ⟨_, rfl⟩
  refine ⟨s, as, bs, bad, d, e, failure, orders, order, hd, he, hfilter.append as bs d e hd he, ?_,
    hbad, hfilter.fails_left bad as failure hbad, hfilter.fails_right as bad d failure hd hbad,
    horder, (hgroups orders).symm.trans horder, hitems.size _ order horder⟩
  cases hd
  cases he
  rfl

end Scope
end DocQuery
