import DocQuery.Plan.Failure
import Mathlib.Data.List.Forall2

/-! # Outcomes of planning

A step of planning ends in a result, in a refusal, or in a read outside the parameters
(`Failure.outOfBounds`).  This module takes composed steps apart: what it means that such a step
has a result, and how its failures come from the failures of its parts (`FailsOnly`).  A step
that never ends in a read outside the parameters is `InBounds`.
-/
namespace DocQuery

/-! ### Results of composed steps -/

section Results
variable {ε δ α β : Type}

theorem bind_eq_ok {x : Except ε α} {f : α → Except ε β} {b : β} :
    x >>= f = .ok b ↔ ∃ a, x = .ok a ∧ f a = .ok b := by
  cases x <;> simp [bind, Except.bind]

theorem bind_eq_error {x : Except ε α} {f : α → Except ε β} {e : ε} :
    x >>= f = .error e ↔ x = .error e ∨ ∃ a, x = .ok a ∧ f a = .error e := by
  cases x <;> simp [bind, Except.bind]

theorem map_eq_ok {x : Except ε α} {f : α → β} {b : β} :
    f <$> x = .ok b ↔ ∃ a, x = .ok a ∧ f a = b := by
  cases x <;> simp [Functor.map, Except.map]

theorem map_eq_error {x : Except ε α} {f : α → β} {e : ε} :
    f <$> x = .error e ↔ x = .error e := by
  cases x <;> simp [Functor.map, Except.map]

theorem pure_eq_ok {a b : α} : (pure a : Except ε α) = .ok b ↔ a = b := by
  simp [pure, Except.pure]

theorem mapError_eq_ok {x : Except ε α} {f : ε → δ} {a : α} :
    x.mapError f = .ok a ↔ x = .ok a := by
  cases x <;> simp [Except.mapError]

/-- Results of a list of steps are the results of its members, in order. -/
theorem mapM_eq_ok {f : α → Except ε β} {as : List α} {bs : List β} :
    as.mapM f = .ok bs ↔ List.Forall₂ (fun a b => f a = .ok b) as bs := by
  induction as generalizing bs with
  | nil =>
    rw [List.mapM_nil, pure_eq_ok, List.forall₂_nil_left_iff]
    exact eq_comm
  | cons a as ih =>
    rw [List.mapM_cons, bind_eq_ok, List.forall₂_cons_left_iff]
    constructor
    · rintro ⟨b, hb, h⟩
      obtain ⟨bs', hbs, h⟩ := bind_eq_ok.mp h
      exact ⟨b, bs', hb, ih.mp hbs, (pure_eq_ok.mp h).symm⟩
    · rintro ⟨b, bs', hb, hbs, rfl⟩
      exact ⟨b, hb, bind_eq_ok.mpr ⟨bs', ih.mpr hbs, rfl⟩⟩

/-- What stands on the right has its partner on the left. -/
theorem exists_mem_of_forall₂ {R : α → β → Prop} {as : List α} {bs : List β}
    (h : List.Forall₂ R as bs) {b : β} (hb : b ∈ bs) : ∃ a ∈ as, R a b := by
  induction h with
  | nil => cases hb
  | @cons a c as bs hac _ ih =>
    rcases List.mem_cons.mp hb with rfl | hb
    · exact ⟨a, List.mem_cons_self, hac⟩
    · obtain ⟨a', ha', hab⟩ := ih hb
      exact ⟨a', List.mem_cons_of_mem a ha', hab⟩

theorem inClause_eq_ok {clause : Clause} {x : Encoded α} {a : α} :
    x.inClause clause = .ok a ↔ x = .ok a := mapError_eq_ok

theorem inClause_eq_error {clause : Clause} {x : Encoded α} {failure : Failure Refusal} :
    x.inClause clause = .error failure ↔
      ∃ cause, x = .error cause ∧ cause.map (.ofValueError clause) = failure := by
  cases x <;> simp [Encoded.inClause, Except.mapError]

/-! A composed step has a result at all exactly if its parts have. -/

theorem exists_map_eq_ok {x : Except ε α} {f : α → β} :
    (∃ b, f <$> x = .ok b) ↔ ∃ a, x = .ok a := by
  cases x <;> simp [Functor.map, Except.map]

theorem exists_bind_eq_ok {x : Except ε α} {f : α → Except ε β} :
    (∃ b, x >>= f = .ok b) ↔ ∃ a, x = .ok a ∧ ∃ b, f a = .ok b := by
  cases x <;> simp [bind, Except.bind]

theorem exists_mapM_eq_ok {f : α → Except ε β} {as : List α} :
    (∃ bs, as.mapM f = .ok bs) ↔ ∀ a ∈ as, ∃ b, f a = .ok b := by
  induction as with
  | nil => exact iff_of_true ⟨[], rfl⟩ nofun
  | cons a as ih =>
    rw [List.mapM_cons, exists_bind_eq_ok, List.forall_mem_cons, ← ih]
    constructor
    · rintro ⟨b, hb, h⟩
      obtain ⟨bs, hbs, -⟩ := exists_bind_eq_ok.mp h
      exact ⟨⟨b, hb⟩, bs, hbs⟩
    · rintro ⟨⟨b, hb⟩, bs, hbs⟩
      exact ⟨b, hb, exists_bind_eq_ok.mpr ⟨bs, hbs, b :: bs, rfl⟩⟩

/-- A list of steps fails as the first of its members that fails. -/
theorem mapM_eq_error {f : α → Except ε β} {as : List α} {e : ε} :
    as.mapM f = .error e ↔ ∃ before a after, as = before ++ a :: after ∧
      (∀ c ∈ before, ∃ b, f c = .ok b) ∧ f a = .error e := by
  induction as with
  | nil => exact iff_of_false nofun (by simp)
  | cons a as ih =>
    rw [List.mapM_cons, bind_eq_error]
    constructor
    · rintro (ha | ⟨b, hb, h⟩)
      · exact ⟨[], a, as, rfl, nofun, ha⟩
      · rcases bind_eq_error.mp h with h | ⟨bs, -, h⟩
        · obtain ⟨before, a', after, rfl, hbefore, ha'⟩ := ih.mp h
          exact ⟨a :: before, a', after, rfl, List.forall_mem_cons.mpr ⟨⟨b, hb⟩, hbefore⟩, ha'⟩
        · cases h
    · rintro ⟨before, a', after, has, hbefore, ha'⟩
      cases before with
      | nil =>
        obtain ⟨rfl, -⟩ := List.cons.inj has
        exact .inl ha'
      | cons c before =>
        obtain ⟨rfl, rfl⟩ := List.cons.inj has
        obtain ⟨⟨b, hb⟩, hbefore⟩ := List.forall_mem_cons.mp hbefore
        have htail := ih.mpr ⟨before, a', after, rfl, hbefore, ha'⟩
        exact .inr ⟨b, hb, bind_eq_error.mpr (.inl htail)⟩

end Results

/-! ### Failures of composed steps -/

section Failures
variable {ε α β : Type} {P : ε → Prop}

/-- Every failure of the step is as `P` says. -/
def FailsOnly (P : ε → Prop) (x : Except ε α) : Prop := ∀ e, x = .error e → P e

namespace FailsOnly

theorem ok (a : α) : FailsOnly P (.ok a) := by
  intro e h
  cases h

theorem error {e : ε} (he : P e) : FailsOnly P (.error e : Except ε α) := by
  intro e' h
  cases h
  exact he

theorem bind {x : Except ε α} {f : α → Except ε β} (hx : FailsOnly P x)
    (hf : ∀ a, FailsOnly P (f a)) : FailsOnly P (x >>= f) := by
  rcases x with e | a
  · exact error (hx e rfl)
  · exact hf a

theorem map {x : Except ε α} (f : α → β) (hx : FailsOnly P x) : FailsOnly P (f <$> x) := by
  rcases x with e | a
  · exact error (hx e rfl)
  · exact ok (f a)

theorem mapM {f : α → Except ε β} {as : List α} (h : ∀ a ∈ as, FailsOnly P (f a)) :
    FailsOnly P (as.mapM f) := by
  induction as with
  | nil => exact ok []
  | cons a as ih =>
    rw [List.mapM_cons]
    refine (h a List.mem_cons_self).bind fun b => ?_
    exact (ih fun c hc => h c (List.mem_cons_of_mem a hc)).bind fun bs => ok (b :: bs)

end FailsOnly
end Failures

/-! ### Steps that stay within the parameters -/

variable {ε α β : Type}

/-- The step does not end in a read outside the parameters. -/
def InBounds (x : Except (Failure ε) α) : Prop :=
  ∀ size index, x ≠ .error (.outOfBounds size index)

/-- Such a step gives a result or refuses. -/
theorem inBounds_iff {x : Except (Failure ε) α} :
    InBounds x ↔ (∃ a, x = .ok a) ∨ ∃ e, x = .error (.refused e) := by
  rcases x with (e | ⟨size, index⟩) | a
  · simp [InBounds]
  · simp [InBounds]
  · simp [InBounds]

theorem inBounds_iff_failsOnly {x : Except (Failure ε) α} :
    InBounds x ↔ FailsOnly (fun failure => ∀ size index, failure ≠ .outOfBounds size index) x := by
  constructor
  · intro h failure hx size index hfailure
    exact h size index (hx.trans (congrArg Except.error hfailure))
  · intro h size index hx
    exact h _ hx size index rfl

namespace InBounds

theorem ok (a : α) : InBounds (.ok a : Except (Failure ε) α) :=
  inBounds_iff_failsOnly.mpr (.ok a)

theorem refused (e : ε) : InBounds (.error (.refused e) : Except (Failure ε) α) := by
  intro size index h
  cases h

theorem bind {x : Except (Failure ε) α} {f : α → Except (Failure ε) β} (hx : InBounds x)
    (hf : ∀ a, InBounds (f a)) : InBounds (x >>= f) :=
  inBounds_iff_failsOnly.mpr
    ((inBounds_iff_failsOnly.mp hx).bind fun a => inBounds_iff_failsOnly.mp (hf a))

theorem map {x : Except (Failure ε) α} (f : α → β) (hx : InBounds x) : InBounds (f <$> x) :=
  inBounds_iff_failsOnly.mpr ((inBounds_iff_failsOnly.mp hx).map f)

theorem mapM {f : α → Except (Failure ε) β} {as : List α} (h : ∀ a ∈ as, InBounds (f a)) :
    InBounds (as.mapM f) :=
  inBounds_iff_failsOnly.mpr (.mapM fun a ha => inBounds_iff_failsOnly.mp (h a ha))

theorem inClause (clause : Clause) {x : Encoded α} (hx : InBounds x) :
    InBounds (x.inClause clause) := by
  rcases x with (e | ⟨size, index⟩) | a
  · exact refused _
  · exact absurd rfl (hx size index)
  · exact ok a

end InBounds

theorem invalid_inBounds (clause : Clause) (e : Expr) :
    InBounds (Planned.invalid clause e : Planned α) := InBounds.refused _

end DocQuery
