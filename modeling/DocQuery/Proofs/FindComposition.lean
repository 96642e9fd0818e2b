import DocQuery.Proofs.FilterRules
import DocQuery.Proofs.SelectionItems

/-! # Filter and order of a find

A find keeps its filter and its order in one document, and tells whether there is an order by
the two keys that such a document has.  Planning the conditions alone can arrive at a document
with these keys as well: two conditions, on fields whose keys are `$query` and `$orderby`, of
which at least one has a document beside its key.  A query without an order and with such
conditions mimics an order (`Scope.Mimics`), and its parts are taken for what they are not.

`Scope.find_parts_iff` says that nothing else goes wrong: the parts of a find are the planned
filter and the planned order unless the query mimics one. -/
namespace DocQuery

/-! ### Reading the parts -/

theorem Document.keys_eq_pair {d : Document} {key₁ key₂ : String} :
    d.keys = [key₁, key₂] ↔ ∃ v w, d = .entries [(key₁, v), (key₂, w)] := by
  constructor
  · intro h
    cases d with
    | empty => cases h
    | entries ps =>
      obtain _ | ⟨⟨k₁, v⟩, _ | ⟨⟨k₂, w⟩, _ | _⟩⟩ := ps <;> cases h
      exact ⟨v, w, rfl⟩
  · rintro ⟨v, w, rfl⟩
    rfl

namespace Find
variable {f : Find} {filter order : Document}

theorem isComposed_iff :
    f.isComposed = true ↔ ∃ v w, f.query = .entries [("$query", v), ("$orderby", w)] :=
  beq_iff_eq.trans Document.keys_eq_pair

/-- The parts of a find that has an order can be read back. -/
theorem parts_of_ordered (hquery : f.query = compose filter order)
    (horder : order.isEmpty = false) : f.filter = filter ∧ f.order? = some order := by
  have hpairs : f.query =
      .entries [("$query", .document filter), ("$orderby", .document order)] := by
    rw [hquery, compose, horder]
    rfl
  have hcomposed : f.isComposed = true := isComposed_iff.mpr ⟨_, _, hpairs⟩
  unfold Find.filter Find.order?
  rw [hcomposed, hpairs]
  exact ⟨rfl, rfl⟩

/-- A find whose document does not have the two keys is all filter. -/
theorem parts_of_not_composed (h : f.isComposed = false) :
    f.filter = f.query ∧ f.order? = none := by
  unfold Find.filter Find.order?
  rw [h]
  constructor
  · split <;> rfl
  · split <;> rfl

/-- With the two keys, the parts are the documents under them. -/
theorem parts_of_pairs {v w : Value} (h : f.query = .entries [("$query", v), ("$orderby", w)]) :
    (f.filter = f.query ∧ f.order? = none) ↔
      ¬ ((∃ d, v = .document d) ∨ ∃ d, w = .document d) := by
  have hcomposed : f.isComposed = true := isComposed_iff.mpr ⟨v, w, h⟩
  have hv : f.query.get? "$query" = some v := by rw [h]; rfl
  have hw : f.query.get? "$orderby" = some w := by rw [h]; rfl
  have hfilter : f.filter = f.query ↔ ¬ ∃ d, v = .document d := by
    unfold Find.filter
    rw [hv, hcomposed]
    cases v with
    | document d =>
      -- a document under a key is smaller than the document it stands in
      have hne : d ≠ f.query := by
        intro hd
        have hsize := congrArg sizeOf (hd.trans h)
        simp only [Document.entries.sizeOf_spec, List.cons.sizeOf_spec, Prod.mk.sizeOf_spec,
          Value.document.sizeOf_spec] at hsize
        omega
      simp [hne]
    | native n => simp
    | array items => simp
  have horder : f.order? = none ↔ ¬ ∃ d, w = .document d := by
    unfold Find.order?
    rw [hw, hcomposed]
    cases w <;> simp
  rw [hfilter, horder, not_or]

/-- A find is all filter unless there are the two keys with a document under one of them. -/
theorem parts_iff :
    (f.filter = f.query ∧ f.order? = none) ↔
      ¬ ∃ v w, f.query = .entries [("$query", v), ("$orderby", w)] ∧
        ((∃ d, v = .document d) ∨ ∃ d, w = .document d) := by
  by_cases hcomposed : f.isComposed = true
  · obtain ⟨v, w, h⟩ := isComposed_iff.mp hcomposed
    rw [parts_of_pairs h, h]
    simp
  · refine iff_of_true (parts_of_not_composed (Bool.eq_false_iff.mpr hcomposed)) ?_
    rintro ⟨v, w, h, -⟩
    exact hcomposed (isComposed_iff.mpr ⟨v, w, h⟩)

end Find

/-! ### The pairs of conditions on fields -/

/-- The name of the field under whose key the pair of a condition stands, if it does not stand
under an operator. -/
def Expr.fieldName? : Expr → Option String
  | .compare _ (.field name) _ => some name
  | .isNil (.field name) => some name
  | .not (.compare .eq (.field name) _) => some name
  | .not (.compare .isIn (.field name) _) => some name
  | .not (.isNil (.field name)) => some name
  | _ => none

namespace Scope
variable {s : Scope} {clause : Clause}

/-- The condition has a document beside the key of its field: all have but the test for null
and the test for equality with something else than a document. -/
def BesideDocument (s : Scope) : Expr → Prop
  | .isNil _ => False
  | .compare .eq _ right => ∃ d, right.value? s.params = some (.document d)
  | _ => True

/-- The pair stands where the condition puts it: under the key of its field, with a document
if the condition says so, or under an operator. -/
def Places (s : Scope) (e : Expr) (p : String × Value) : Prop :=
  (∃ name, e.fieldName? = some name ∧ p.1 = s.key name ∧
      ((∃ d, p.2 = .document d) ↔ s.BesideDocument e)) ∨
    (e.fieldName? = none ∧ p.1 ∈ ["$and", "$or", "$not", "$where"])

/-- Negation keeps the pair of a field where the store has the opposite operator. -/
theorem places_negated {e : Expr} {p : String × Value} (h : s.condition clause e = .ok p) :
    s.Places (.not e) (e.negated p) := by
  cases e with
  | isNil operand =>
    obtain ⟨key, hkey, rfl⟩ := map_eq_ok.mp (condition_isNil s clause operand ▸ h)
    obtain ⟨name, rfl, rfl⟩ := field_eq_ok.mp hkey
    exact Or.inl ⟨name, rfl, rfl, iff_of_true ⟨_, rfl⟩ trivial⟩
  | compare op left right =>
    obtain ⟨name, v, rfl, hv, rfl⟩ := of_comparison_eq_ok (condition_compare s clause _ _ _ ▸ h)
    cases op with
    | eq | isIn => exact Or.inl ⟨name, rfl, rfl, iff_of_true ⟨_, rfl⟩ trivial⟩
    | _ => exact Or.inr ⟨rfl, by simp [Expr.negated]⟩
  | _ => exact Or.inr ⟨rfl, by simp [Expr.negated]⟩

theorem places_condition {e : Expr} {p : String × Value} (h : s.condition clause e = .ok p) :
    s.Places e p := by
  cases e with
  | and es =>
    obtain ⟨vs, -, rfl⟩ := map_eq_ok.mp (condition_and s clause es ▸ h)
    exact Or.inr ⟨rfl, by simp⟩
  | or es =>
    obtain ⟨vs, -, rfl⟩ := map_eq_ok.mp (condition_or s clause es ▸ h)
    exact Or.inr ⟨rfl, by simp⟩
  | isNil operand =>
    obtain ⟨key, hkey, rfl⟩ := map_eq_ok.mp (condition_isNil s clause operand ▸ h)
    obtain ⟨name, rfl, rfl⟩ := field_eq_ok.mp hkey
    exact Or.inl ⟨name, rfl, rfl, by simp [BesideDocument]⟩
  | compare op left right =>
    obtain ⟨name, v, rfl, hv, rfl⟩ := of_comparison_eq_ok (condition_compare s clause _ _ _ ▸ h)
    refine Or.inl ⟨name, rfl, rfl, ?_⟩
    cases op with
    | eq =>
      have hvalue : right.value? s.params = some v := hv
      simp [BesideDocument, hvalue, CompareOp.compared]
    | _ => exact iff_of_true ⟨_, rfl⟩ trivial
  | not e =>
    obtain ⟨q, hq, rfl⟩ := map_eq_ok.mp (condition_not s clause e ▸ h)
    exact places_negated hq
  | param index =>
    obtain ⟨source, -, rfl⟩ := of_code_eq_ok (condition_param s clause index ▸ h)
    exact Or.inr ⟨rfl, by simp⟩
  | _ =>
    simp only [condition] at h
    cases h

/-- The pair of a condition stands under a key that is no operator of conditions exactly if
it is the key of the condition's field. -/
theorem key_condition_iff {e : Expr} {p : String × Value} {key : String}
    (h : s.condition clause e = .ok p) (hkey : key ∉ ["$and", "$or", "$not", "$where"]) :
    p.1 = key ↔ e.fieldName?.map s.key = some key := by
  rcases places_condition h with ⟨name, hname, hp, -⟩ | ⟨hname, hp⟩
  · rw [hname, hp, Option.map_some, Option.some_inj]
  · rw [hname]
    refine iff_of_false ?_ (by simp)
    rintro rfl
    exact hkey hp

theorem document_condition_iff {e : Expr} {p : String × Value} {key : String}
    (h : s.condition clause e = .ok p) (hkey : e.fieldName?.map s.key = some key) :
    (∃ d, p.2 = .document d) ↔ s.BesideDocument e := by
  rcases places_condition h with ⟨_, -, -, hdoc⟩ | ⟨hname, -⟩
  · exact hdoc
  · rw [hname] at hkey
    cases hkey

/-! ### Conditions that look like an order -/

/-- The query has no order, but its filter has the keys of a find with an order. -/
def Mimics (s : Scope) (q : Query) : Prop :=
  q.orderItems = [] ∧ ∃ c₁ c₂, q.conditions = [c₁, c₂] ∧
    c₁.fieldName?.map s.key = some "$query" ∧ c₂.fieldName?.map s.key = some "$orderby" ∧
    (s.BesideDocument c₁ ∨ s.BesideDocument c₂)

/-- The filter of a query without an order has the two keys, and a document under one of them,
exactly if the query mimics an order. -/
theorem mimics_iff {q : Query} {filter : Document} (hitems : q.orderItems = [])
    (h : s.filter clause q.conditions = .ok filter) :
    s.Mimics q ↔ ∃ v w, filter = .entries [("$query", v), ("$orderby", w)] ∧
      ((∃ d, v = .document d) ∨ ∃ d, w = .document d) := by
  obtain ⟨ps, hps, rfl⟩ := map_eq_ok.mp h
  replace hps := mapM_eq_ok.mp hps
  constructor
  · rintro ⟨-, c₁, c₂, hconditions, hkey₁, hkey₂, hdoc⟩
    rw [hconditions] at hps
    obtain - | ⟨h₁, - | ⟨h₂, - | _⟩⟩ := hps
    rename_i p₁ p₂
    have hp₁ := (key_condition_iff h₁ (by decide)).mpr hkey₁
    have hp₂ := (key_condition_iff h₂ (by decide)).mpr hkey₂
    refine ⟨p₁.2, p₂.2, ?_, ?_⟩
    · rw [← hp₁, ← hp₂]
      rfl
    · rwa [document_condition_iff h₁ hkey₁, document_condition_iff h₂ hkey₂]
  · rintro ⟨v, w, hpairs, hdoc⟩
    have hps' : ps = [("$query", v), ("$orderby", w)] := by
      rw [← Document.pairs_ofPairs ps, hpairs]
      rfl
    rw [hps'] at hps
    generalize hconditions : q.conditions = conditions at hps
    obtain - | ⟨h₁, - | ⟨h₂, - | _⟩⟩ := hps
    rename_i c₁ c₂
    have hkey₁ : c₁.fieldName?.map s.key = some "$query" :=
      (key_condition_iff h₁ (by decide)).mp rfl
    have hkey₂ : c₂.fieldName?.map s.key = some "$orderby" :=
      (key_condition_iff h₂ (by decide)).mp rfl
    refine ⟨hitems, c₁, c₂, hconditions, hkey₁, hkey₂, ?_⟩
    rwa [← document_condition_iff h₁ hkey₁, ← document_condition_iff h₂ hkey₂]

/-! ### Planned finds -/

theorem order_isEmpty {items : List OrderItem} {order : Document}
    (h : s.order items = .ok order) : order.isEmpty = items.isEmpty := by
  obtain ⟨ps, hps, rfl⟩ := map_eq_ok.mp h
  cases mapM_eq_ok.mp hps <;> rfl

/-- What a planned find is made of, stage by stage. -/
theorem stages_of_find {q : Query} {f : Find} (h : s.find q = .ok f) :
    q.check = .ok () ∧ (∃ filter order, s.filter .filter q.conditions = .ok filter ∧
      s.order q.orderItems = .ok order ∧ f.query = Find.compose filter order) ∧
    (∃ selected, s.selection q.source q.selection = .ok selected ∧
      f.outputs = selected.outputs ∧ f.projection = selected.projection) ∧
    s.paging q.limit q.offset = .ok f.paging := by
  obtain ⟨_, hcheck, h⟩ := bind_eq_ok.mp h
  obtain ⟨filter, hfilter, h⟩ := bind_eq_ok.mp h
  obtain ⟨order, horder, h⟩ := bind_eq_ok.mp h
  obtain ⟨selected, hselected, h⟩ := bind_eq_ok.mp h
  obtain ⟨paging, hpaging, h⟩ := bind_eq_ok.mp h
  obtain rfl := pure_eq_ok.mp h
  exact ⟨hcheck, ⟨filter, order, hfilter, horder, rfl⟩, ⟨selected, hselected, rfl, rfl⟩, hpaging⟩

/-- A planned find is made of the planned filter and the planned order. -/
theorem of_find_eq_ok {q : Query} {f : Find} (h : s.find q = .ok f) :
    ∃ filter order, s.filter .filter q.conditions = .ok filter ∧
      s.order q.orderItems = .ok order ∧ f.query = Find.compose filter order :=
  (stages_of_find h).2.1

/-- **The parts of a find are what was planned for them, unless the query mimics an order.**
The filter is the one planned for the conditions, and the order is the one planned for the
order items, or none if there are no items. -/
theorem find_parts_iff {q : Query} {f : Find} (h : s.find q = .ok f) :
    ∃ filter order, s.filter .filter q.conditions = .ok filter ∧
      s.order q.orderItems = .ok order ∧
      ((f.filter = filter ∧ f.order? = if q.orderItems = [] then none else some order) ↔
        ¬ s.Mimics q) := by
  obtain ⟨filter, order, hfilter, horder, hquery⟩ := of_find_eq_ok h
  refine ⟨filter, order, hfilter, horder, ?_⟩
  have hempty := order_isEmpty horder
  by_cases hitems : q.orderItems = []
  · have hunordered : f.query = filter := by
      rw [hquery, Find.compose, hempty, hitems]
      rfl
    rw [if_pos hitems, mimics_iff hitems hfilter, ← hunordered]
    exact Find.parts_iff
  · rw [if_neg hitems]
    refine iff_of_true (Find.parts_of_ordered hquery ?_) fun hmimics => hitems hmimics.1
    rw [hempty, List.isEmpty_eq_false_iff]
    exact hitems

/-- Conditions on the two keys do no harm where there is an order. -/
theorem find_parts_of_ordered_lookalike :
    ∃ (s : Scope) (q : Query) (f : Find) (filter order : Document),
      s.find q = .ok f ∧ filter.keys = ["$query", "$orderby"] ∧ ¬ s.Mimics q ∧
      f.filter = filter ∧ f.order? = some order := by
  let s : Scope := { identityKey := "_id" }
  let q : Query :=
    { source := { coll := "users" }
      conditions := [.compare .gt (.field "$query") (.literal (.int 1)),
        .compare .lt (.field "$orderby") (.literal (.int 2))]
      orders := [[{ expr := .field "age", direction := .descending }]] }
  have hmimics : ¬ s.Mimics q := fun h => List.cons_ne_nil _ _ h.1
  obtain ⟨f, hfind⟩ : ∃ f, s.find q = .ok f := ⟨_, rfl⟩
  obtain ⟨filter, order, hfilter, -, hparts⟩ := find_parts_iff hfind
  obtain ⟨hf, ho⟩ := hparts.mpr hmimics
  refine ⟨s, q, f, filter, order, hfind, ?_, hmimics, hf, ho⟩
  cases hfilter
  rfl

/-- Two conditions, with no order asked for, from which a find reads another filter and an
order. -/
theorem find_parts_of_mimicry :
    ¬ ∀ (s : Scope) (q : Query) (f : Find) (filter : Document), s.find q = .ok f →
      s.filter .filter q.conditions = .ok filter → q.orderItems = [] →
      f.filter = filter ∧ f.order? = none := by
  intro h
  let q : Query :=
    { source := { coll := "users" }
      conditions := [.compare .eq (.field "$query") (.literal (.document (.single "a" (.int 1)))),
        .compare .eq (.field "$orderby") (.literal (.document (.single "b" (.int 1))))] }
  have horder := (h { identityKey := "_id" } q _ _ rfl rfl rfl).2
  exact Option.some_ne_none _ horder

end Scope
end DocQuery
