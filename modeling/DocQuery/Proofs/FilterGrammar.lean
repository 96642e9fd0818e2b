import DocQuery.Proofs.FindComposition
import DocQuery.Proofs.ParamBounds

/-! # The conditions that have a filter

Planning takes conditions apart by their shape, and the same expression is read differently in
different places: a parameter is code where a condition is wanted and a value elsewhere, and a
range of parameters can only stand right of `in`.  This module says which conditions are
accepted without any of that.  `Expr.IsValue`, `Expr.IsOperand` and `Expr.IsFilter` are a
grammar, and planning accepts exactly what the grammar has (`Scope.condition_accepted_iff`),
provided that the parameters are there: without them there is neither a pair nor a refusal.

Negation is planned by rules of its own for equality and membership.  They refuse what the rules
for the positive conditions refuse, in the same words, and otherwise differ from them in one
operator (`Scope.condition_not_follows`). -/
namespace DocQuery

/-! ### The grammar -/

namespace Expr

/-- Expressions that stand for a value.  A cast has to fit the value that it is applied to. -/
inductive IsValue (params : List Value) : Expr → Prop
  | literal (value : Value) : IsValue params (.literal value)
  | param (index : UInt64) : IsValue params (.param index)
  | tagged {e : Expr} {cast : Cast} {v w : Value} (inner : IsValue params e)
      (resolved : e.value? params = some v) (fits : cast.value? v = some w) :
      IsValue params (.tagged e cast)

mutual
/-- Conditions that a filter is planned for. -/
inductive IsFilter (params : List Value) : Expr → Prop
  | and {es : List Expr} (operands : ∀ e ∈ es, IsOperand params e) : IsFilter params (.and es)
  | or {es : List Expr} (operands : ∀ e ∈ es, IsOperand params e) : IsFilter params (.or es)
  | isNil (name : String) : IsFilter params (.isNil (.field name))
  | compare (op : CompareOp) (name : String) {right : Expr} (value : IsValue params right) :
      IsFilter params (.compare op (.field name) right)
  | inRange (name : String) (start count : UInt64) :
      IsFilter params (.compare .isIn (.field name) (.paramRange start count))
  | not {e : Expr} (operand : IsFilter params e) : IsFilter params (.not e)
  | code {index : UInt64} {source : String}
      (given : params[index.toNat]? = some (.scalar (.code source))) :
      IsFilter params (.param index)

/-- What may stand under a connective. -/
inductive IsOperand (params : List Value) : Expr → Prop
  | condition {e : Expr} (operator : e.isOperator = true) (filter : IsFilter params e) :
      IsOperand params e
  | value {e : Expr} (operator : e.isOperator = false) (value : IsValue params e) :
      IsOperand params e
end

/-! ### The grammar, read from the outside in -/

variable {params : List Value}

theorem isFilter_and {es : List Expr} :
    (Expr.and es).IsFilter params ↔ ∀ e ∈ es, e.IsOperand params :=
  ⟨fun | .and operands => operands, .and⟩

theorem isFilter_or {es : List Expr} :
    (Expr.or es).IsFilter params ↔ ∀ e ∈ es, e.IsOperand params :=
  ⟨fun | .or operands => operands, .or⟩

theorem isFilter_not {e : Expr} : (Expr.not e).IsFilter params ↔ e.IsFilter params :=
  ⟨fun | .not operand => operand, .not⟩

theorem isFilter_isNil {e : Expr} :
    (Expr.isNil e).IsFilter params ↔ ∃ name, e = .field name := by
  constructor
  · rintro ⟨⟩
    exact ⟨_, rfl⟩
  · rintro ⟨name, rfl⟩
    exact .isNil name

theorem isFilter_compare {op : CompareOp} {left right : Expr} :
    (Expr.compare op left right).IsFilter params ↔ (∃ name, left = .field name) ∧
      (right.IsValue params ∨ op = .isIn ∧ ∃ start count, right = .paramRange start count) := by
  constructor
  · intro h
    cases h with
    | compare _ name value => exact ⟨⟨name, rfl⟩, .inl value⟩
    | inRange name start count => exact ⟨⟨name, rfl⟩, .inr ⟨rfl, start, count, rfl⟩⟩
  · rintro ⟨⟨name, rfl⟩, value | ⟨rfl, start, count, rfl⟩⟩
    · exact .compare op name value
    · exact .inRange name start count

theorem isFilter_param {index : UInt64} :
    (Expr.param index).IsFilter params ↔
      ∃ source, params[index.toNat]? = some (.scalar (.code source)) := by
  constructor
  · rintro ⟨⟩
    exact ⟨_, ‹_›⟩
  · rintro ⟨source, given⟩
    exact .code given

theorem isOperand_iff {e : Expr} :
    e.IsOperand params ↔ if e.isOperator then e.IsFilter params else e.IsValue params := by
  constructor
  · rintro (⟨operator, filter⟩ | ⟨operator, value⟩)
    · rwa [if_pos operator]
    · rwa [if_neg (by simp [operator])]
  · intro h
    split at h
    · exact .condition ‹_› h
    · exact .value (Bool.eq_false_iff.mpr ‹_›) h

/-- Where the parameters are there, the expressions that stand for a value have one. -/
theorem isValue_iff {e : Expr} (h : e.Covered params.length) :
    e.IsValue params ↔ ∃ v, e.value? params = some v := by
  induction e with
  | literal value => exact iff_of_true (.literal value) ⟨value, rfl⟩
  | param index =>
    have hindex : index.toNat < params.length := everywhere_param.mp h
    exact iff_of_true (.param index) ⟨_, List.getElem?_eq_getElem hindex⟩
  | tagged e cast ih =>
    constructor
    · rintro ⟨⟩
      rename_i v w _ resolved fits
      exact ⟨w, Option.bind_eq_some_iff.mpr ⟨v, resolved, fits⟩⟩
    · rintro ⟨w, hw⟩
      obtain ⟨v, resolved, fits⟩ := Option.bind_eq_some_iff.mp hw
      exact .tagged ((ih (everywhere_tagged.mp h).2).mpr ⟨v, resolved⟩) resolved fits
  | _ =>
    constructor
    · rintro ⟨⟩
    · rintro ⟨v, ⟨⟩⟩

/-- The field under whose key the pair of a condition stands is a field of the condition. -/
theorem field_mem_nodes {e : Expr} {name : String} (h : e.fieldName? = some name) :
    .field name ∈ e.nodes := by
  unfold fieldName? at h
  split at h
  case h_6 => cases h
  all_goals
    cases h
    simp [nodes]

end Expr

/-! ### What planning accepts -/

namespace Scope
variable (s : Scope) (clause : Clause)

theorem field_accepted_iff (e : Expr) :
    (∃ key, s.field clause e = .ok key) ↔ ∃ name, e = .field name := by
  constructor
  · rintro ⟨key, hkey⟩
    obtain ⟨name, rfl, -⟩ := field_eq_ok.mp hkey
    exact ⟨name, rfl⟩
  · rintro ⟨name, rfl⟩
    exact ⟨_, rfl⟩

variable {s}

theorem value_accepted_iff {e : Expr} (h : e.Covered s.params.length) :
    (∃ v, s.value clause e = .ok v) ↔ e.IsValue s.params := by
  rw [Expr.isValue_iff h]
  exact exists_congr fun v => value_eq_ok

/-- A range whose parameters are there does not run past the last index. -/
theorem range_accepted {start count : UInt64}
    (h : (Expr.paramRange start count).Covered s.params.length)
    (hsize : s.params.length < 2 ^ 64) : ∃ vs, s.range clause start count = .ok vs := by
  have hfits : 0 < count.toNat → start.toNat + count.toNat ≤ s.params.length :=
    Expr.everywhere_paramRange.mp h
  have hstart : start.toNat < 2 ^ 64 := start.toNat_lt
  refine ⟨_, range_eq_ok.mpr ⟨?_, ?_, rfl⟩⟩
  · omega
  · omega

theorem comparand_accepted_iff {op : CompareOp} {e : Expr} (h : e.Covered s.params.length)
    (hsize : s.params.length < 2 ^ 64) :
    (∃ v, s.comparand clause op e = .ok v) ↔
      e.IsValue s.params ∨ op = .isIn ∧ ∃ start count, e = .paramRange start count := by
  by_cases hrange : op = .isIn ∧ ∃ start count, e = .paramRange start count
  · obtain ⟨rfl, start, count, rfl⟩ := hrange
    have haccepted : ∃ v, s.comparand clause .isIn (.paramRange start count) = .ok v :=
      exists_map_eq_ok.mpr (range_accepted clause h hsize)
    exact iff_of_true haccepted (.inr ⟨rfl, start, count, rfl⟩)
  · have hvalue : s.comparand clause op e = s.value clause e := by
      cases op with
      | isIn =>
        cases e with
        | paramRange start count => exact absurd ⟨rfl, start, count, rfl⟩ hrange
        | _ => rfl
      | _ => rfl
    rw [hvalue, value_accepted_iff clause h]
    exact (or_iff_left hrange).symm

theorem comparison_accepted_iff {op : CompareOp} {left right : Expr}
    (h : right.Covered s.params.length) (hsize : s.params.length < 2 ^ 64) :
    (∃ p, s.comparison clause op left right = .ok p) ↔
      (Expr.compare op left right).IsFilter s.params := by
  rw [comparison_eq, exists_bind_eq_ok, Expr.isFilter_compare,
    ← field_accepted_iff s clause, ← comparand_accepted_iff clause h hsize]
  constructor
  · rintro ⟨key, hkey, hp⟩
    obtain ⟨v, hv, -⟩ := exists_bind_eq_ok.mp hp
    exact ⟨⟨key, hkey⟩, v, hv⟩
  · rintro ⟨⟨key, hkey⟩, v, hv⟩
    exact ⟨key, hkey, exists_bind_eq_ok.mpr ⟨v, hv, _, rfl⟩⟩

theorem code_accepted_iff {index : UInt64} :
    (∃ p, s.code clause (.param index) = .ok p) ↔ (Expr.param index).IsFilter s.params := by
  rw [Expr.isFilter_param]
  constructor
  · rintro ⟨p, hp⟩
    obtain ⟨source, hsource, -⟩ := of_code_eq_ok hp
    exact ⟨source, hsource⟩
  · rintro ⟨source, hsource⟩
    have hvalue : s.value clause (.param index) = .ok (.scalar (.code source)) :=
      value_eq_ok.mpr hsource
    exact ⟨_, bind_eq_ok.mpr ⟨_, hvalue, rfl⟩⟩

theorem operand_accepted_iff {e : Expr} (h : e.Covered s.params.length)
    (hcondition : (∃ p, s.condition clause e = .ok p) ↔ e.IsFilter s.params) :
    (∃ v, s.operand clause e = .ok v) ↔ e.IsOperand s.params := by
  rw [Expr.isOperand_iff, operand]
  by_cases hoperator : e.isOperator = true
  · rw [if_pos hoperator, if_pos hoperator, exists_map_eq_ok]
    exact hcondition
  · rw [if_neg hoperator, if_neg hoperator]
    exact value_accepted_iff clause h

/-- Planning accepts the conditions of the grammar and no others. -/
theorem exists_condition_iff {e : Expr} (h : e.Covered s.params.length)
    (hsize : s.params.length < 2 ^ 64) :
    (∃ p, s.condition clause e = .ok p) ↔ e.IsFilter s.params := by
  induction e with
  | and es ih =>
    have hes := (Expr.everywhere_and.mp h).2
    rw [condition_and, exists_map_eq_ok, exists_mapM_eq_ok, Expr.isFilter_and]
    exact forall₂_congr fun e he => operand_accepted_iff clause (hes e he) (ih e he (hes e he))
  | or es ih =>
    have hes := (Expr.everywhere_or.mp h).2
    rw [condition_or, exists_map_eq_ok, exists_mapM_eq_ok, Expr.isFilter_or]
    exact forall₂_congr fun e he => operand_accepted_iff clause (hes e he) (ih e he (hes e he))
  | isNil operand =>
    rw [condition_isNil, exists_map_eq_ok, Expr.isFilter_isNil]
    exact field_accepted_iff s clause operand
  | compare op left right =>
    rw [condition_compare]
    exact comparison_accepted_iff clause (Expr.everywhere_compare.mp h).2.2 hsize
  | not operand ih =>
    rw [condition_not, exists_map_eq_ok, Expr.isFilter_not]
    exact ih (Expr.everywhere_not.mp h).2
  | param index =>
    rw [condition_param]
    exact code_accepted_iff clause
  | _ =>
    simp only [condition]
    constructor
    · rintro ⟨p, ⟨⟩⟩
    · rintro ⟨⟩

/-- **Planning accepts exactly the conditions of the grammar**, given the parameters that they
need, and the pair of an accepted condition stands under an operator that makes conditions out of
others, under the operator for code, or under the key of one of its fields.  There are fewer
parameters than the largest index, where bounds stop. -/
theorem condition_accepted_iff {e : Expr} (hbound : e.paramBound ≤ s.params.length)
    (hsize : s.params.length < 2 ^ 64 - 1) :
    ((∃ p, s.condition clause e = .ok p) ↔ e.IsFilter s.params) ∧
    ∀ p, s.condition clause e = .ok p →
      p.1 ∈ ["$and", "$or", "$not", "$where"] ∨
        ∃ name, .field name ∈ e.nodes ∧ p.1 = s.key name := by
  have hcovered := (Expr.paramBound_le_iff hsize e).mp hbound
  refine ⟨exists_condition_iff clause hcovered (by omega), fun p hp => ?_⟩
  rcases places_condition hp with ⟨name, hname, hkey, -⟩ | ⟨-, hkey⟩
  · exact .inr ⟨name, Expr.field_mem_nodes hname, hkey⟩
  · exact .inl hkey

/-- Code under a negation, a range under `in` and a cast that fits, as operands of one condition.
The second parameter, which is no code, makes no condition. -/
theorem condition_accepted_of_varied_operands :
    ∃ (s : Scope) (e refused : Expr) (p : String × Value),
      e.paramBound ≤ s.params.length ∧ refused.paramBound ≤ s.params.length ∧
      s.params.length < 2 ^ 64 - 1 ∧ e.IsFilter s.params ∧
      s.condition .filter e = .ok p ∧ p.1 = "$or" ∧ ¬ refused.IsFilter s.params := by
  let s : Scope := { params := [.scalar (.code "true"), .int 3, .int 4], identityKey := "_id" }
  let e : Expr := .or [.not (.param 0), .compare .isIn (.field "age") (.paramRange 1 2),
    .tagged (.param 1) .float]
  have hsize : s.params.length < 2 ^ 64 - 1 := by decide
  have hbound : e.paramBound ≤ s.params.length := by decide
  have hfilter : e.IsFilter s.params := by
    refine .or (List.forall_mem_cons.mpr ⟨.condition rfl (.not (.code rfl)), ?_⟩)
    refine List.forall_mem_cons.mpr ⟨.condition rfl (.inRange "age" 1 2), ?_⟩
    exact List.forall_mem_singleton.mpr (.value rfl (.tagged (.param 1) rfl rfl))
  obtain ⟨p, hp⟩ := (condition_accepted_iff .filter hbound hsize).1.mpr hfilter
  refine ⟨s, e, .not (.param 1), p, hbound, by decide, hsize, hfilter, hp, ?_, ?_⟩
  · cases hp
    rfl
  · intro hrefused
    obtain ⟨q, hq⟩ := (condition_accepted_iff .filter (by decide) hsize).1.mpr hrefused
    cases hq

/-! ### Negation -/

end Scope

namespace Expr

/-- Tests for equality, with a value or with null. -/
def IsEquality (e : Expr) : Prop :=
  (∃ left right, e = .compare .eq left right) ∨ ∃ operand, e = .isNil operand

/-- Tests for membership. -/
def IsMembership (e : Expr) : Prop := ∃ left right, e = .compare .isIn left right

theorem negated_of_isEquality {e : Expr} (h : e.IsEquality) (key : String) (v : Value) :
    e.negated (key, v) = (key, .document (.single "$ne" v)) := by
  obtain ⟨left, right, rfl⟩ | ⟨operand, rfl⟩ := h
  · rfl
  · rfl

/-- What has no opposite in the store is wrapped. -/
theorem negated_of_others {e : Expr} (hequality : ¬ e.IsEquality) (hmembership : ¬ e.IsMembership)
    (key : String) (v : Value) : e.negated (key, v) = ("$not", .document (.single key v)) := by
  cases e with
  | isNil operand => exact absurd (.inr ⟨operand, rfl⟩) hequality
  | compare op left right =>
    cases op with
    | eq => exact absurd (.inl ⟨left, right, rfl⟩) hequality
    | isIn => exact absurd ⟨left, right, rfl⟩ hmembership
    | _ => rfl
  | _ => rfl

end Expr

namespace Scope
variable (s : Scope) (clause : Clause)

/-- **A negation is refused as what it negates is refused, and planned to its opposite.**  The
opposite of an equality has `$ne` around its value, the opposite of a membership has `$nin` in the
place of `$in`, and that of any other condition is its pair under `$not`. -/
theorem condition_not_follows (e : Expr) :
    (∀ failure, s.condition clause (.not e) = .error failure ↔
      s.condition clause e = .error failure) ∧
    ∀ key v, s.condition clause e = .ok (key, v) →
      (e.IsEquality →
        s.condition clause (.not e) = .ok (key, .document (.single "$ne" v))) ∧
      (e.IsMembership → ∃ members, v = .document (.single "$in" members) ∧
        s.condition clause (.not e) = .ok (key, .document (.single "$nin" members))) ∧
      (¬ e.IsEquality → ¬ e.IsMembership →
        s.condition clause (.not e) = .ok ("$not", .document (.single key v))) := by
  refine ⟨fun failure => ?_, fun key v h => ?_⟩
  · rw [condition_not, map_eq_error]
  · have hnot : s.condition clause (.not e) = .ok (e.negated (key, v)) := by
      rw [condition_not, h]
      rfl
    rw [hnot]
    refine ⟨fun hequality => ?_, fun hmembership => ?_, fun hequality hmembership => ?_⟩
    · rw [Expr.negated_of_isEquality hequality]
    · obtain ⟨left, right, rfl⟩ := hmembership
      rw [condition_compare] at h
      obtain ⟨name, members, -, -, hpair⟩ := of_comparison_eq_ok h
      cases hpair
      exact ⟨members, rfl, rfl⟩
    · rw [Expr.negated_of_others hequality hmembership]

/-- A range within the parameters and one that runs out of them, each with its negation. -/
theorem condition_not_follows_of_ranges :
    ∃ (s : Scope) (within beyond : Expr) (key : String) (members : Value)
      (failure : Failure Refusal),
      s.condition .filter within = .ok (key, .document (.single "$in" members)) ∧
      s.condition .filter (.not within) = .ok (key, .document (.single "$nin" members)) ∧
      s.condition .filter beyond = .error failure ∧
      s.condition .filter (.not beyond) = .error failure := by
  let s : Scope := { params := [.int 3, .int 4], primaryKey := some "id", identityKey := "_id" }
  let within : Expr := .compare .isIn (.field "id") (.paramRange 0 2)
  let beyond : Expr := .compare .isIn (.field "id") (.paramRange 1 2)
  have hwithin : s.condition .filter within =
      .ok ("_id", .document (.single "$in" (.array [.int 3, .int 4]))) := rfl
  have hbeyond : s.condition .filter beyond = .error (.outOfBounds 2 2) := rfl
  obtain ⟨-, hmembership, -⟩ := (condition_not_follows s .filter within).2 _ _ hwithin
  obtain ⟨members, hmembers, hnot⟩ := hmembership ⟨_, _, rfl⟩
  cases hmembers
  exact ⟨s, within, beyond, _, _, _, hwithin, hnot, hbeyond,
    ((condition_not_follows s .filter beyond).1 _).mpr hbeyond⟩

end Scope
end DocQuery
