import DocQuery.Proofs.Outcomes

/-! # Steps that end alike

Two steps of planning end alike if they have the same result, if both refuse for causes that
are related in a given way, or if both read outside the parameters at the same index.  Steps
composed of steps that end alike end alike again, so two queries can be followed side by side
through all stages of planning.

Causes are usually related by `SameCause`: two refusals may point at different expressions,
and everything else about them is the same. -/
namespace DocQuery

/-- The two steps end alike, with refusals related by `R`. -/
inductive Alike {ε α : Type} (R : ε → ε → Prop) :
    Except (Failure ε) α → Except (Failure ε) α → Prop
  | ok (a : α) : Alike R (.ok a) (.ok a)
  | refused {e e' : ε} (h : R e e') : Alike R (.error (.refused e)) (.error (.refused e'))
  | outOfBounds (size index : Nat) :
      Alike R (.error (.outOfBounds size index)) (.error (.outOfBounds size index))

namespace Alike
variable {ε α β γ : Type} {R : ε → ε → Prop}

theorem refl (hR : ∀ e, R e e) (x : Except (Failure ε) α) : Alike R x x := by
  rcases x with (e | ⟨size, index⟩) | a
  · exact .refused (hR e)
  · exact .outOfBounds size index
  · exact .ok a

theorem bind {x y : Except (Failure ε) α} {f g : α → Except (Failure ε) β} (h : Alike R x y)
    (hfg : ∀ a, Alike R (f a) (g a)) : Alike R (x >>= f) (y >>= g) := by
  cases h with
  | ok a => exact hfg a
  | refused h => exact .refused h
  | outOfBounds size index => exact .outOfBounds size index

theorem map (f : α → β) {x y : Except (Failure ε) α} (h : Alike R x y) :
    Alike R (f <$> x) (f <$> y) := by
  cases h with
  | ok a => exact .ok (f a)
  | refused h => exact .refused h
  | outOfBounds size index => exact .outOfBounds size index

/-- Lists of steps end alike if their members do, one by one. -/
theorem mapM {f : α → Except (Failure ε) γ} {g : β → Except (Failure ε) γ} {t : α → β}
    {as : List α} (h : ∀ a ∈ as, Alike R (f a) (g (t a))) :
    Alike R (as.mapM f) ((as.map t).mapM g) := by
  induction as with
  | nil => exact .ok []
  | cons a as ih =>
    have htail := ih fun b hb => h b (List.mem_cons_of_mem a hb)
    rw [List.map_cons, List.mapM_cons, List.mapM_cons]
    refine (h a List.mem_cons_self).bind fun c => ?_
    exact htail.bind fun cs => .ok (c :: cs)

theorem eq_ok {x y : Except (Failure ε) α} {a : α} (h : Alike R x y) (hx : x = .ok a) :
    y = .ok a := by
  subst hx
  cases h
  rfl

/-- Where nothing is read outside the parameters, there is a common result or there are two
refusals. -/
theorem of_inBounds {x y : Except (Failure ε) α} (h : Alike R x y) (hx : InBounds x) :
    (∃ a, x = .ok a ∧ y = .ok a) ∨
      ∃ e e', x = .error (.refused e) ∧ y = .error (.refused e') ∧ R e e' := by
  cases h with
  | ok a => exact Or.inl ⟨a, rfl, rfl⟩
  | refused h => exact Or.inr ⟨_, _, rfl, rfl, h⟩
  | outOfBounds size index => exact absurd rfl (hx size index)

end Alike

/-! ### Refusals for the same cause -/

/-- What is wrong with the expression that a refusal points at, if a value was wanted. -/
def Refusal.flaw? : Refusal → Option Flaw
  | .unsupported _ => none
  | .invalid _ _ flaw => flaw

/-- The two errors differ at most in the expression. -/
def ValueError.SameCause (e e' : ValueError) : Prop := e.flaw = e'.flaw

/-- The two refusals have the same code, are about the same part of the query and find the same
fault with it.  They differ at most in the expression that they point at. -/
def Refusal.SameCause (r r' : Refusal) : Prop :=
  r.code = r'.code ∧ r.place = r'.place ∧ r.flaw? = r'.flaw?

theorem ValueError.SameCause.refl (e : ValueError) : e.SameCause e := rfl

theorem Refusal.SameCause.refl (r : Refusal) : r.SameCause r := ⟨rfl, rfl, rfl⟩

variable {α : Type}

theorem alike_self (x : Planned α) : Alike Refusal.SameCause x x :=
  Alike.refl Refusal.SameCause.refl x

theorem alike_encoded_self (x : Encoded α) : Alike ValueError.SameCause x x :=
  Alike.refl ValueError.SameCause.refl x

theorem alike_refused_value {node node' : Expr} (flaw : Flaw) :
    Alike ValueError.SameCause (.error (.refused ⟨node, flaw⟩) : Encoded α)
      (.error (.refused ⟨node', flaw⟩)) :=
  .refused rfl

theorem alike_invalid (clause : Clause) (node node' : Expr) :
    Alike Refusal.SameCause (Planned.invalid clause node : Planned α)
      (Planned.invalid clause node') :=
  .refused ⟨rfl, rfl, rfl⟩

/-- Values that are found alike are found alike in any clause. -/
theorem Alike.inClause (clause : Clause) {x y : Encoded α} (h : Alike ValueError.SameCause x y) :
    Alike Refusal.SameCause (x.inClause clause) (y.inClause clause) := by
  cases h with
  | ok a => exact .ok a
  | refused h => exact .refused ⟨rfl, rfl, congrArg some h⟩
  | outOfBounds size index => exact .outOfBounds size index

end DocQuery
