import DocQuery.Proofs.Resolution

/-! # The rules of filters

`Scope.condition` as one equation for each kind of condition, in a form that an induction on
expressions can use.  The rules for negation look two levels deep; `condition_not` says the
same as one rule, that a negation is planned by planning what it negates and then changing
the pair (`negated`), so that no proof about conditions has to look below a negation. -/
namespace DocQuery

/-- What stands beside the field in the pair of a comparison. -/
def CompareOp.compared : CompareOp → Value → Value
  | .eq, v => v
  | op, v => .document (.single op.operator v)

/-- The pair of a negated condition, from the pair of the condition. -/
def Expr.negated : Expr → String × Value → String × Value
  | .compare .eq _ _, (key, v) => (key, .document (.single "$ne" v))
  | .isNil _, (key, v) => (key, .document (.single "$ne" v))
  | .compare .isIn _ _, (key, .document (.entries [(_, members)])) =>
      (key, .document (.single "$nin" members))
  | _, (key, v) => ("$not", .document (.single key v))

namespace Scope

/-- The pair of a condition as a document. -/
def asDocument (p : String × Value) : Value := .document (.single p.1 p.2)

/-- An operand of a connective. -/
def operand (s : Scope) (clause : Clause) (e : Expr) : Planned Value :=
  if e.isOperator then asDocument <$> s.condition clause e else s.value clause e

/-- What a field is compared with: members under `in`, and one value otherwise. -/
def comparand (s : Scope) (clause : Clause) : CompareOp → Expr → Planned Value
  | .isIn, e => s.members clause e
  | _, e => s.value clause e

variable (s : Scope) (clause : Clause)

theorem comparison_eq (op : CompareOp) (left right : Expr) :
    s.comparison clause op left right = (do
      let key ← s.field clause left
      let v ← s.comparand clause op right
      pure (key, op.compared v)) := by
  cases op <;> rfl

theorem operands_eq_mapM (es : List Expr) :
    s.operands clause es = es.mapM (s.operand clause) := by
  induction es with
  | nil => rfl
  | cons e es ih =>
    rw [List.mapM_cons, ← ih]
    simp only [operands, operand]
    by_cases he : e.isOperator
    · rw [if_pos he, if_pos he]
      cases s.condition clause e <;> rfl
    · rw [if_neg he, if_neg he]

/-! ### One equation for each kind of condition -/

theorem condition_and (es : List Expr) :
    s.condition clause (.and es) =
      (fun vs => ("$and", .array vs)) <$> es.mapM (s.operand clause) := by
  rw [← operands_eq_mapM]
  simp only [condition]
  cases s.operands clause es <;> rfl

theorem condition_or (es : List Expr) :
    s.condition clause (.or es) =
      (fun vs => ("$or", .array vs)) <$> es.mapM (s.operand clause) := by
  rw [← operands_eq_mapM]
  simp only [condition]
  cases s.operands clause es <;> rfl

theorem condition_isNil (e : Expr) :
    s.condition clause (.isNil e) = (fun key => (key, .null)) <$> s.field clause e := by
  simp only [condition]
  cases s.field clause e <;> rfl

theorem condition_compare (op : CompareOp) (left right : Expr) :
    s.condition clause (.compare op left right) = s.comparison clause op left right := by
  simp only [condition]

theorem condition_param (index : UInt64) :
    s.condition clause (.param index) = s.code clause (.param index) := by
  simp only [condition]

/-- A negation fails as what it negates does, and otherwise changes its pair. -/
theorem condition_not (e : Expr) :
    s.condition clause (.not e) = e.negated <$> s.condition clause e := by
  cases e with
  | isNil operand =>
    simp only [condition]
    cases s.field clause operand <;> rfl
  | compare op left right =>
    -- membership takes its members from a range as well, all else takes a value
    by_cases hop : op = .isIn
    · subst hop
      simp only [condition, comparison]
      cases s.field clause left with
      | error f => rfl
      | ok key => cases s.members clause right <;> rfl
    · cases op with
      | isIn => exact absurd rfl hop
      | _ =>
        simp only [condition, comparison]
        cases s.field clause left with
        | error f => rfl
        | ok key => cases s.value clause right <;> rfl
  | _ => simp only [condition]; rfl

/-! ### Pairs that planning arrives at -/

variable {s clause}

theorem comparand?_of_comparand {op : CompareOp} {e : Expr} {v : Value}
    (h : s.comparand clause op e = .ok v) : e.comparand? s.params op = some v := by
  cases op with
  | isIn => exact comparand?_of_members h
  | _ => exact value_eq_ok.mp h

/-- A planned comparison compares a field with the comparand. -/
theorem of_comparison_eq_ok {op : CompareOp} {left right : Expr} {p : String × Value}
    (h : s.comparison clause op left right = .ok p) :
    ∃ name v, left = .field name ∧ right.comparand? s.params op = some v ∧
      p = (s.key name, op.compared v) := by
  rw [comparison_eq] at h
  obtain ⟨key, hkey, h⟩ := bind_eq_ok.mp h
  obtain ⟨name, rfl, rfl⟩ := field_eq_ok.mp hkey
  obtain ⟨v, hv, h⟩ := bind_eq_ok.mp h
  exact ⟨name, v, rfl, comparand?_of_comparand hv, (pure_eq_ok.mp h).symm⟩

/-- A parameter planned as a condition is code. -/
theorem of_code_eq_ok {index : UInt64} {p : String × Value}
    (h : s.code clause (.param index) = .ok p) :
    ∃ source, s.params[index.toNat]? = some (.scalar (.code source)) ∧
      p = ("$where", .scalar (.code source)) := by
  unfold code at h
  obtain ⟨v, hv, h⟩ := bind_eq_ok.mp h
  split at h
  · rename_i source
    exact ⟨source, value_eq_ok.mp hv, (pure_eq_ok.mp h).symm⟩
  · cases h

/-- A planned operand is the document of a condition or a value. -/
theorem of_operand_eq_ok {e : Expr} {v : Value} (h : s.operand clause e = .ok v) :
    (e.isOperator = true ∧ ∃ p, s.condition clause e = .ok p ∧ v = asDocument p) ∨
      (e.isOperator = false ∧ e.value? s.params = some v) := by
  unfold operand at h
  split at h
  · rename_i he
    obtain ⟨p, hp, rfl⟩ := map_eq_ok.mp h
    exact Or.inl ⟨he, p, hp, rfl⟩
  · rename_i he
    exact Or.inr ⟨Bool.eq_false_iff.mpr he, value_eq_ok.mp h⟩

end Scope
end DocQuery
