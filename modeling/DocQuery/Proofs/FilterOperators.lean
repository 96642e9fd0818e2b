import DocQuery.Proofs.DocumentKeys
import DocQuery.Proofs.FilterRules

/-! # Where the operators of a filter come from

The store acts on every key that starts with `$`, so who decides on these keys decides what a
filter does.  The slots of a condition are the places that such keys can come from, in
reading order.  Most are operators that the condition itself asks for; the others are
parameters that stand in the filter as they are given, operators of their own included.
Parameters that are cast, and those that are code, have no slot: they bring no keys.

A planned condition has exactly the operators of its slots (`Scope.operatorKeys_condition`).
The slots do not depend on the parameters, so two lists of parameters give the same operators
exactly if they fill the slots alike. -/
namespace DocQuery

/-- A place in a filter that operators can come from. -/
inductive Slot where
  | operator (key : String)
  | param (index : Nat)
  deriving DecidableEq

/-- The operators in a slot. -/
def Slot.fill (params : List Value) : Slot → List String
  | .operator key => [key]
  | .param index => params[index]?.toList.flatMap Value.operatorKeys

/-! ### The slots of a condition -/

namespace Expr

/-- The slots of a name, whose key may happen to be an operator. -/
def nameSlots (key : String → String) : Expr → List Slot
  | .field name => ([key name].filter isOperatorKey).map .operator
  | _ => []

def valueSlots : Expr → List Slot
  | .literal value => value.operatorKeys.map .operator
  | .param index => [.param index.toNat]
  | _ => []

/-- The slots of what a field is compared with. -/
def comparandSlots : CompareOp → Expr → List Slot
  | .isIn, .paramRange start count => (List.range' start.toNat count.toNat).map .param
  | _, e => e.valueSlots

mutual
/-- The slots of a condition, where `key` gives the key of a field. -/
def slots (key : String → String) : Expr → List Slot
  | .and es => .operator "$and" :: operandSlots key es
  | .or es => .operator "$or" :: operandSlots key es
  | .isNil e => e.nameSlots key
  | .compare .eq left right => left.nameSlots key ++ right.comparandSlots .eq
  | .compare op left right =>
      left.nameSlots key ++ .operator op.operator :: right.comparandSlots op
  | .not (.isNil e) => e.nameSlots key ++ [.operator "$ne"]
  | .not (.compare .eq left right) =>
      left.nameSlots key ++ .operator "$ne" :: right.comparandSlots .eq
  | .not (.compare .isIn left right) =>
      left.nameSlots key ++ .operator "$nin" :: right.comparandSlots .isIn
  | .not e => .operator "$not" :: slots key e
  | .param _ => [.operator "$where"]
  | _ => []

def operandSlots (key : String → String) : List Expr → List Slot
  | [] => []
  | e :: es => (if e.isOperator then slots key e else e.valueSlots) ++ operandSlots key es
end

end Expr

/-! ### Filled slots -/

section
variable {params : List Value}

theorem fill_operators (keys : List String) :
    (keys.map Slot.operator).flatMap (Slot.fill params) = keys := by
  induction keys with
  | nil => rfl
  | cons key keys ih => rw [List.map_cons, List.flatMap_cons, ih]; rfl

/-- Slots for a run of parameters hold what the slice holds. -/
theorem fill_params (start count : Nat) :
    ((List.range' start count).map Slot.param).flatMap (Slot.fill params) =
      ((params.drop start).take count).flatMap Value.operatorKeys := by
  induction count generalizing start with
  | zero => rfl
  | succ count ih =>
    rw [List.range'_succ, List.map_cons, List.flatMap_cons, ih]
    by_cases hlt : start < params.length
    · rw [List.drop_eq_getElem_cons hlt, List.take_succ_cons, List.flatMap_cons, Slot.fill,
        List.getElem?_eq_getElem hlt, Option.toList_some, List.flatMap_singleton]
    · have hge : params.length ≤ start := Nat.le_of_not_lt hlt
      rw [List.drop_eq_nil_of_le hge, List.drop_eq_nil_of_le (Nat.le_succ_of_le hge), Slot.fill,
        List.getElem?_eq_none hge]
      simp

end

/-! ### Values -/

/-- Casts bring no operators with them. -/
theorem Cast.operatorKeys_of_value? {cast : Cast} {v w : Value} (h : cast.value? v = some w) :
    w.operatorKeys = [] := by
  refine Cast.of_value? (P := fun w => w.operatorKeys = []) operatorKeys_scalar ?_ h
  intro items hitems
  rw [operatorKeys_array, List.flatMap_eq_nil_iff]
  exact hitems

namespace Expr
variable {params : List Value}

theorem operatorKeys_value? {e : Expr} {v : Value} (h : e.value? params = some v) :
    v.operatorKeys = e.valueSlots.flatMap (Slot.fill params) := by
  cases e with
  | literal value =>
    cases h
    exact (fill_operators v.operatorKeys).symm
  | param index =>
    rw [valueSlots, List.flatMap_singleton, Slot.fill,
      show params[index.toNat]? = some v from h, Option.toList_some, List.flatMap_singleton]
  | tagged value cast =>
    obtain ⟨u, -, hv⟩ := Option.bind_eq_some_iff.mp h
    rw [Cast.operatorKeys_of_value? hv]
    rfl
  | _ => cases h

theorem operatorKeys_comparand? {op : CompareOp} {e : Expr} {v : Value}
    (h : e.comparand? params op = some v) :
    v.operatorKeys = (e.comparandSlots op).flatMap (Slot.fill params) := by
  unfold comparand? at h
  split at h
  · rename_i start count
    cases h
    rw [operatorKeys_array, comparandSlots, fill_params]
  · rename_i hrange
    rw [comparandSlots, operatorKeys_value? h]
    exact hrange

theorem fill_nameSlots (key : String → String) (name : String) :
    ((Expr.field name).nameSlots key).flatMap (Slot.fill params) =
      [key name].filter isOperatorKey :=
  fill_operators _

end Expr

/-! ### Conditions -/

namespace Scope
variable {s : Scope} {clause : Clause}

/-- An operator beside a field adds itself. -/
theorem pairOperatorKeys_operator (key : String) {op : String} (hop : isOperatorKey op = true)
    (v : Value) :
    pairOperatorKeys (key, .document (.single op v)) =
      [key].filter isOperatorKey ++ op :: v.operatorKeys := by
  rw [pairOperatorKeys_eq, operatorKeys_single, pairOperatorKeys_eq,
    List.filter_cons_of_pos hop]
  rfl

theorem operatorKeys_comparison {op : CompareOp} {left right : Expr} {p : String × Value}
    (h : s.comparison clause op left right = .ok p) :
    pairOperatorKeys p =
      ((Expr.compare op left right).slots s.key).flatMap (Slot.fill s.params) := by
  obtain ⟨name, v, rfl, hv, rfl⟩ := of_comparison_eq_ok h
  have hvalue := Expr.operatorKeys_comparand? hv
  cases op with
  | eq =>
    rw [Expr.slots, List.flatMap_append, Expr.fill_nameSlots, ← hvalue]
    exact pairOperatorKeys_eq _ _
  | _ =>
    rw [Expr.slots, List.flatMap_append, List.flatMap_cons, Expr.fill_nameSlots, ← hvalue]
    · exact pairOperatorKeys_operator _ (by decide) v
    · exact CompareOp.noConfusion

/-- Negation puts its operator where the slots of the negation have it. -/
theorem operatorKeys_negated {e : Expr} {p : String × Value} (h : s.condition clause e = .ok p)
    (hp : pairOperatorKeys p = (e.slots s.key).flatMap (Slot.fill s.params)) :
    pairOperatorKeys (e.negated p) =
      ((Expr.not e).slots s.key).flatMap (Slot.fill s.params) := by
  -- where the store has no opposite operator, the pair is wrapped as it is
  have hwrap : pairOperatorKeys ("$not", .document (.single p.1 p.2)) =
      (Slot.operator "$not" :: e.slots s.key).flatMap (Slot.fill s.params) := by
    rw [pairOperatorKeys_eq, operatorKeys_single, List.flatMap_cons, ← hp]
    rfl
  cases e with
  | isNil operand =>
    obtain ⟨key, hkey, rfl⟩ := map_eq_ok.mp (condition_isNil s clause operand ▸ h)
    obtain ⟨name, rfl, rfl⟩ := field_eq_ok.mp hkey
    rw [Expr.slots, List.flatMap_append, Expr.fill_nameSlots]
    exact pairOperatorKeys_operator _ (by decide) .null
  | compare op left right =>
    obtain ⟨name, v, rfl, hv, rfl⟩ := of_comparison_eq_ok (condition_compare s clause _ _ _ ▸ h)
    have hvalue := Expr.operatorKeys_comparand? hv
    cases op with
    | eq | isIn =>
      rw [Expr.slots, List.flatMap_append, List.flatMap_cons, Expr.fill_nameSlots, ← hvalue]
      exact pairOperatorKeys_operator _ (by decide) v
    | _ => exact hwrap
  | _ => exact hwrap

theorem operatorKeys_operands {es : List Expr} {vs : List Value}
    (h : List.Forall₂ (fun e v => s.operand clause e = .ok v) es vs)
    (hes : ∀ e ∈ es, ∀ p, s.condition clause e = .ok p →
      pairOperatorKeys p = (e.slots s.key).flatMap (Slot.fill s.params)) :
    (Value.array vs).operatorKeys =
      (Expr.operandSlots s.key es).flatMap (Slot.fill s.params) := by
  rw [operatorKeys_array]
  induction h with
  | nil => rfl
  | @cons e v es vs hev _ ih =>
    have ih := ih fun e' he' => hes e' (List.mem_cons_of_mem e he')
    rw [Expr.operandSlots, List.flatMap_append, List.flatMap_cons, ih]
    rcases of_operand_eq_ok hev with ⟨he, p, hp, rfl⟩ | ⟨he, hv⟩
    · rw [if_pos he, ← hes e List.mem_cons_self p hp]
      rfl
    · rw [if_neg (by simp [he]), ← Expr.operatorKeys_value? hv]

/-- The operators of a planned condition are those in its slots. -/
theorem operatorKeys_condition {e : Expr} {p : String × Value}
    (h : s.condition clause e = .ok p) :
    pairOperatorKeys p = (e.slots s.key).flatMap (Slot.fill s.params) := by
  induction e generalizing p with
  | and es ih =>
    obtain ⟨vs, hvs, rfl⟩ := map_eq_ok.mp (condition_and s clause es ▸ h)
    rw [pairOperatorKeys_eq, operatorKeys_operands (mapM_eq_ok.mp hvs) fun e he p => ih e he]
    rfl
  | or es ih =>
    obtain ⟨vs, hvs, rfl⟩ := map_eq_ok.mp (condition_or s clause es ▸ h)
    rw [pairOperatorKeys_eq, operatorKeys_operands (mapM_eq_ok.mp hvs) fun e he p => ih e he]
    rfl
  | not e ih =>
    obtain ⟨q, hq, rfl⟩ := map_eq_ok.mp (condition_not s clause e ▸ h)
    exact operatorKeys_negated hq (ih hq)
  | isNil operand =>
    obtain ⟨key, hkey, rfl⟩ := map_eq_ok.mp (condition_isNil s clause operand ▸ h)
    obtain ⟨name, rfl, rfl⟩ := field_eq_ok.mp hkey
    rw [Expr.slots, Expr.fill_nameSlots, pairOperatorKeys_eq, operatorKeys_scalar,
      List.append_nil]
  | compare op left right =>
    exact operatorKeys_comparison (condition_compare s clause op left right ▸ h)
  | param index =>
    obtain ⟨source, -, rfl⟩ := of_code_eq_ok (condition_param s clause index ▸ h)
    rfl
  | _ =>
    simp only [condition] at h
    cases h

/-- **Two lists of parameters give a condition the same operators exactly if they fill its
slots alike**, and so in particular if each parameter that has a slot brings the same
operators in both. -/
theorem operatorKeys_eq_iff {params params' : List Value} {e : Expr} {p p' : String × Value}
    (h : { s with params := params }.condition clause e = .ok p)
    (h' : { s with params := params' }.condition clause e = .ok p') :
    (pairOperatorKeys p = pairOperatorKeys p' ↔
      (e.slots s.key).flatMap (Slot.fill params) =
        (e.slots s.key).flatMap (Slot.fill params')) ∧
    ((∀ index, Slot.param index ∈ e.slots s.key →
        (Slot.param index).fill params = (Slot.param index).fill params') →
      pairOperatorKeys p = pairOperatorKeys p') := by
  have hp : pairOperatorKeys p = (e.slots s.key).flatMap (Slot.fill params) :=
    operatorKeys_condition h
  have hp' : pairOperatorKeys p' = (e.slots s.key).flatMap (Slot.fill params') :=
    operatorKeys_condition h'
  rw [hp, hp']
  refine ⟨Iff.rfl, fun hsame => List.flatMap_congr fun slot hslot => ?_⟩
  cases slot with
  | operator key => rfl
  | param index => exact hsame index hslot

/-- Three parameters that stand in a filter and a fourth that is cast, all of them harmless. -/
theorem operatorKeys_eq_of_harmless_params :
    ∃ (s : Scope) (e : Expr) (params params' : List Value) (p p' : String × Value),
      { s with params := params }.condition .filter e = .ok p ∧
      { s with params := params' }.condition .filter e = .ok p' ∧
      pairOperatorKeys p = ["$and", "$nin", "$gt"] ∧ pairOperatorKeys p = pairOperatorKeys p' := by
  let s : Scope := { primaryKey := some "id", identityKey := "_id" }
  let e : Expr := .and [.compare .eq (.field "name") (.param 0),
    .not (.compare .isIn (.field "id") (.paramRange 1 2)),
    .compare .gt (.field "seen") (.tagged (.param 3) .dateTime)]
  let params : List Value := [.string "ann", .int 1, .int 2, .int 0]
  let params' : List Value := [.document (.single "first" .null), .null, .array [], .int 5]
  have hslots : e.slots s.key = [.operator "$and", .param 0, .operator "$nin", .param 1, .param 2,
      .operator "$gt"] := by decide
  refine ⟨s, e, params, params', _, _, rfl, rfl, by decide, ?_⟩
  refine (operatorKeys_eq_iff (s := s) (e := e)
    (show { s with params := params }.condition .filter e = _ from rfl)
    (show { s with params := params' }.condition .filter e = _ from rfl)).2 fun index hindex => ?_
  rw [hslots] at hindex
  simp only [List.mem_cons, List.not_mem_nil, reduceCtorEq, Slot.param.injEq, or_false,
    false_or] at hindex
  rcases hindex with rfl | rfl | rfl <;> rfl

/-- A condition does not decide on its operators alone: a parameter that is compared with `=`
may be a document, and its operators become operators of the filter. -/
theorem operatorKeys_not_determined :
    ¬ ∀ (s : Scope) (e : Expr) (params params' : List Value) (p p' : String × Value),
      { s with params := params }.condition .filter e = .ok p →
      { s with params := params' }.condition .filter e = .ok p' →
      pairOperatorKeys p = pairOperatorKeys p' := by
  intro h
  have hinjected := h { identityKey := "_id" } (.compare .eq (.field "name") (.param 0))
    [.null] [.document (.single "$ne" .null)] _ _ rfl rfl
  exact absurd hinjected (by decide)

end Scope
end DocQuery
