import DocQuery.Plan.Payload
import DocQuery.Proofs.Resolution

/-! # Payloads that the store takes

When pairs and field updates can be written, said without steps: every key of the pairs has to
be one that the store takes, at any depth, and every expression has to have a value. -/
namespace DocQuery

/-- Pairs have no bad key exactly if none of them has one, in its key or below it. -/
theorem badKeyOfPairs?_eq_none {pairs : List (String × Value)} :
    badKeyOfPairs? pairs = none ↔ ∀ p ∈ pairs, isKey p.1 = true ∧ p.2.badKey? = none := by
  induction pairs with
  | nil => simp [badKeyOfPairs?]
  | cons p pairs ih =>
    obtain ⟨key, v⟩ := p
    rw [List.forall_mem_cons, ← ih, badKeyOfPairs?]
    by_cases hkey : isKey key = true
    · rw [if_pos hkey]
      cases v.badKey? <;> simp [hkey]
    · rw [if_neg hkey]
      simp [hkey]

theorem encodePairs_eq_ok {pairs pairs' : List (String × Value)} :
    encodePairs pairs = .ok pairs' ↔ badKeyOfPairs? pairs = none ∧ pairs' = pairs := by
  unfold encodePairs
  cases badKeyOfPairs? pairs with
  | none => simp [eq_comm]
  | some key => simp

/-- The pair of a field update has the name of the field and the value of its expression. -/
theorem field_eval_eq_ok {params : List Value} {f : String × Expr} {p : String × Value} :
    (do pure (f.1, ← f.2.eval params) : Encoded (String × Value)) = .ok p ↔
      p.1 = f.1 ∧ f.2.value? params = some p.2 := by
  rw [bind_eq_ok]
  constructor
  · rintro ⟨v, hv, h⟩
    obtain rfl := pure_eq_ok.mp h
    exact ⟨rfl, Expr.eval_eq_ok.mp hv⟩
  · rintro ⟨hname, hv⟩
    exact ⟨p.2, Expr.eval_eq_ok.mpr hv, pure_eq_ok.mpr (Prod.ext hname.symm rfl)⟩

/-- The pairs of field updates have the names of the fields and the values of their
expressions. -/
theorem encodeFields_eq_ok {params : List Value} {fields : List (String × Expr)}
    {pairs : List (String × Value)} :
    encodeFields params fields = .ok pairs ↔
      List.Forall₂ (fun f p => p.1 = f.1 ∧ f.2.value? params = some p.2) fields pairs ∧
        badKeyOfPairs? pairs = none := by
  unfold encodeFields
  rw [bind_eq_ok]
  constructor
  · rintro ⟨pairs', hfields, hkeys⟩
    obtain ⟨hkeys, rfl⟩ := encodePairs_eq_ok.mp hkeys
    exact ⟨(mapM_eq_ok.mp hfields).imp fun f p => field_eval_eq_ok.mp, hkeys⟩
  · rintro ⟨hfields, hkeys⟩
    refine ⟨pairs, mapM_eq_ok.mpr (hfields.imp fun f p => field_eval_eq_ok.mpr), ?_⟩
    exact encodePairs_eq_ok.mpr ⟨hkeys, rfl⟩

end DocQuery
