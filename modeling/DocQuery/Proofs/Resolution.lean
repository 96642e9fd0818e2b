import DocQuery.Plan.Filter
import DocQuery.Proofs.ExprNodes
import DocQuery.Proofs.Outcomes
import Mathlib.Algebra.Group.Nat.Defs

/-! # What names and values resolve to

Planning resolves names and values step by step and reports the first fault.  Here the same
is said without steps: `Expr.value?` is the value of an expression as a function of the
parameters, `Expr.comparand?` what a field is compared with, and the lemmas say that
planning arrives at exactly these. -/
namespace DocQuery

/-! ### Parameters -/

theorem paramAt_eq_ok {ε : Type} {params : List Value} {index : Nat} {v : Value} :
    (paramAt params index : Except (Failure ε) Value) = .ok v ↔ params[index]? = some v := by
  unfold paramAt
  cases params[index]? <;> simp

/-- Reading a run of parameters gives the slice, provided that all of it is there. -/
theorem paramsFrom_eq_ok {ε : Type} {params : List Value} {start count : Nat}
    {vs : List Value} :
    (paramsFrom params start count : Except (Failure ε) (List Value)) = .ok vs ↔
      (count = 0 ∨ start + count ≤ params.length) ∧ vs = (params.drop start).take count := by
  induction count generalizing start vs with
  | zero => simp [paramsFrom, eq_comm]
  | succ count ih =>
    simp only [paramsFrom, bind_eq_ok, pure_eq_ok, paramAt_eq_ok, ih]
    constructor
    · rintro ⟨v, hv, vs', ⟨hle, rfl⟩, rfl⟩
      obtain ⟨hlt, rfl⟩ := List.getElem?_eq_some_iff.mp hv
      refine ⟨Or.inr (by omega), ?_⟩
      rw [List.drop_eq_getElem_cons hlt, List.take_succ_cons]
    · rintro ⟨hle, rfl⟩
      have hlt : start < params.length := by omega
      refine ⟨params[start], List.getElem?_eq_getElem hlt, _, ⟨by omega, rfl⟩, ?_⟩
      rw [List.drop_eq_getElem_cons hlt, List.take_succ_cons]

/-! ### Values -/

namespace Cast
variable {cast : Cast} {P : Value → Prop}

mutual
/-- A cast leaves scalars, alone or in arrays: what holds of these holds of every cast value. -/
theorem of_value? (hscalar : ∀ s, P (.scalar s))
    (harray : ∀ items, (∀ v ∈ items, P v) → P (.array items)) :
    ∀ {v w : Value}, cast.value? v = some w → P w
  | .native (.scalar _), _, h => by
    obtain ⟨s, -, rfl⟩ := Option.map_eq_some_iff.mp h
    exact hscalar s
  | .native (.array _), _, h | .native (.document _), _, h | .native (.scopedCode ..), _, h
  | .document _, _, h => by cases h
  | .array _, _, h => by
    obtain ⟨items, hitems, rfl⟩ := Option.map_eq_some_iff.mp h
    exact harray items (forall_of_values? hscalar harray hitems)

theorem forall_of_values? (hscalar : ∀ s, P (.scalar s))
    (harray : ∀ items, (∀ v ∈ items, P v) → P (.array items)) :
    ∀ {vs ws : List Value}, cast.values? vs = some ws → ∀ w ∈ ws, P w
  | [], _, h => by
    cases h
    exact List.forall_mem_nil P
  | _ :: _, _, h => by
    obtain ⟨w, hw, h⟩ := Option.bind_eq_some_iff.mp h
    obtain ⟨ws, hws, h⟩ := Option.bind_eq_some_iff.mp h
    cases h
    exact List.forall_mem_cons.mpr
      ⟨of_value? hscalar harray hw, forall_of_values? hscalar harray hws⟩
end

end Cast

namespace Expr

/-- The value of an expression under parameters, if it has one. -/
def value? (params : List Value) : Expr → Option Value
  | .literal value => some value
  | .param index => params[index.toNat]?
  | .tagged value cast => (value.value? params).bind cast.value?
  | _ => none

/-- What a field is compared with: the slice of a range under `in`, and a value otherwise. -/
def comparand? (params : List Value) : CompareOp → Expr → Option Value
  | .isIn, .paramRange start count =>
      some (.array ((params.drop start.toNat).take count.toNat))
  | _, e => e.value? params

theorem eval_eq_ok {params : List Value} {e : Expr} {v : Value} :
    e.eval params = .ok v ↔ e.value? params = some v := by
  induction e generalizing v with
  | literal value => simp [eval, value?]
  | param index => exact paramAt_eq_ok
  | tagged value cast ih =>
    simp only [eval, value?, bind_eq_ok, Option.bind_eq_some_iff, ih]
    refine exists_congr fun w => and_congr_right fun _ => ?_
    cases cast.value? w <;> simp [pure_eq_ok]
  | _ => simp [eval, value?]

end Expr

/-! ### Names and values in a scope -/

namespace Scope
variable {s : Scope} {clause : Clause}

theorem field_eq_ok {e : Expr} {key : String} :
    s.field clause e = .ok key ↔ ∃ name, e = .field name ∧ key = s.key name := by
  cases e <;> simp [field, Planned.invalid, Planned.refuse, eq_comm]

theorem value_eq_ok {e : Expr} {v : Value} :
    s.value clause e = .ok v ↔ e.value? s.params = some v :=
  inClause_eq_ok.trans Expr.eval_eq_ok

theorem range_eq_ok {start count : UInt64} {vs : List Value} :
    s.range clause start count = .ok vs ↔
      start.toNat + count.toNat < 2 ^ 64 ∧
        (count.toNat = 0 ∨ start.toNat + count.toNat ≤ s.params.length) ∧
        vs = (s.params.drop start.toNat).take count.toNat := by
  unfold range
  split
  · rename_i hlt
    rw [paramsFrom_eq_ok]
    exact (and_iff_right hlt).symm
  · rename_i hge
    exact iff_of_false nofun fun h => hge h.1

/-- The members of a comparison by `in` are its comparand. -/
theorem comparand?_of_members {e : Expr} {v : Value} (h : s.members clause e = .ok v) :
    e.comparand? s.params .isIn = some v := by
  cases e with
  | paramRange start count =>
    obtain ⟨vs, hvs, rfl⟩ := map_eq_ok.mp h
    obtain ⟨_, _, rfl⟩ := range_eq_ok.mp hvs
    rfl
  | _ => exact value_eq_ok.mp h

end Scope
end DocQuery
