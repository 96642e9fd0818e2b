import DocQuery.Proofs.Resolution
import Mathlib.Order.Bounds.Basic

/-! # A range of parameters is a slice of them

A range is read one parameter after the other, and the reading stops at the first that is missing.
What comes of it can be said without the loop: there is nothing to read in a range without members,
a range within the parameters is their slice, and any other range fails at the first of its indices
that has no parameter (`missingParams`).  Before all this, a range that ends past the last index
there is has been refused.  These four outcomes leave no range out (`Scope.range_eq_slice`). -/
namespace DocQuery

/-- The indices of a range that have no parameter. -/
def missingParams (params : List Value) (start count : Nat) : Set Nat :=
  {index | start ≤ index ∧ index < start + count ∧ params.length ≤ index}

variable {ε : Type} {params : List Value} {start count index : Nat}

/-- A parameter that is there leaves the missing ones to the rest of the range. -/
theorem missingParams_succ (h : start < params.length) :
    missingParams params start (count + 1) = missingParams params (start + 1) count := by
  ext index
  show start ≤ index ∧ index < start + (count + 1) ∧ params.length ≤ index ↔
    start + 1 ≤ index ∧ index < start + 1 + count ∧ params.length ≤ index
  omega

/-- The first missing index is where the parameters end, or where the range starts if it starts
later. -/
theorem isLeast_missingParams (hcount : 0 < count) (hend : params.length < start + count) :
    IsLeast (missingParams params start count) (max start params.length) := by
  constructor
  · show start ≤ max start params.length ∧ max start params.length < start + count ∧
      params.length ≤ max start params.length
    omega
  · rintro index ⟨hstart, -, hmissing⟩
    exact Nat.max_le.mpr ⟨hstart, hmissing⟩

theorem paramAt_of_missing (h : params.length ≤ index) :
    (paramAt params index : Except (Failure ε) Value) =
      .error (.outOfBounds params.length index) := by
  unfold paramAt
  rw [List.getElem?_eq_none h]

/-- Reading a range fails at the first index that is missing. -/
theorem paramsFrom_of_isLeast (h : IsLeast (missingParams params start count) index) :
    (paramsFrom params start count : Except (Failure ε) (List Value)) =
      .error (.outOfBounds params.length index) := by
  induction count generalizing start with
  | zero =>
    obtain ⟨hstart, hlt, -⟩ := h.1
    omega
  | succ count ih =>
    unfold paramsFrom
    by_cases hstart : start < params.length
    · -- the first parameter is read, and the failure is that of the others
      have hrest : (paramsFrom params (start + 1) count : Except (Failure ε) (List Value)) =
          .error (.outOfBounds params.length index) := ih (missingParams_succ hstart ▸ h)
      rw [paramAt_eq_ok.mpr (List.getElem?_eq_getElem hstart), hrest]
      rfl
    · have hmissing : params.length ≤ start := Nat.le_of_not_lt hstart
      have hfirst : start ∈ missingParams params start (count + 1) :=
        ⟨Nat.le_refl start, Nat.lt_add_of_pos_right count.succ_pos, hmissing⟩
      obtain rfl : index = start := Nat.le_antisymm (h.2 hfirst) h.1.1
      rw [paramAt_of_missing hmissing]
      rfl

namespace Scope
variable {s : Scope} {clause : Clause} {start count : UInt64}

theorem range_of_overflow (h : 2 ^ 64 ≤ start.toNat + count.toNat) :
    s.range clause start count = Planned.invalid clause (.paramRange start count) :=
  if_neg (Nat.not_lt.mpr h)

theorem range_of_missing (hend : start.toNat + count.toNat < 2 ^ 64) (hcount : 0 < count.toNat)
    (hparams : s.params.length < start.toNat + count.toNat) :
    s.range clause start count =
      .error (.outOfBounds s.params.length (max start.toNat s.params.length)) :=
  calc s.range clause start count
    _ = paramsFrom s.params start.toNat count.toNat := if_pos hend
    _ = .error (.outOfBounds s.params.length (max start.toNat s.params.length)) :=
      paramsFrom_of_isLeast (isLeast_missingParams hcount hparams)

theorem range_of_count_eq_zero (h : count.toNat = 0) : s.range clause start count = .ok [] := by
  have hend : start.toNat + count.toNat < 2 ^ 64 := by
    have hstart := start.toNat_lt
    omega
  refine range_eq_ok.mpr ⟨hend, Or.inl h, ?_⟩
  rw [h, List.take_zero]

/-- **A range of parameters is a slice of them.**  A range that ends past the last index is refused
as it stands, and nothing is read for that: it is refused for all parameters there could be, even
for none, where any read would fail.  A range without members is empty wherever it starts.  A range
within the parameters is their slice, and any other range fails at the first of its indices that
has no parameter. -/
theorem range_eq_slice (s : Scope) (clause : Clause) (start count : UInt64) :
    s.range clause start count =
      (if 2 ^ 64 ≤ start.toNat + count.toNat then
        Planned.invalid clause (.paramRange start count)
      else if count = 0 then .ok []
      else if start.toNat + count.toNat ≤ s.params.length then
        .ok ((s.params.drop start.toNat).take count.toNat)
      else .error (.outOfBounds s.params.length (max start.toNat s.params.length))) ∧
    (2 ^ 64 ≤ start.toNat + count.toNat → ∀ params : List Value,
      { s with params }.range clause start count =
        Planned.invalid clause (.paramRange start count)) ∧
    (count = 0 → s.range clause start count = .ok []) ∧
    (count ≠ 0 → s.params.length < start.toNat + count.toNat →
      IsLeast (missingParams s.params start.toNat count.toNat)
        (max start.toNat s.params.length)) := by
  have hzero : count = 0 ↔ count.toNat = 0 := UInt64.toNat_inj.symm
  refine ⟨?_, ?_, ?_, ?_⟩
  · by_cases hend : 2 ^ 64 ≤ start.toNat + count.toNat
    · rw [if_pos hend]
      exact range_of_overflow hend
    rw [if_neg hend]
    by_cases hcount : count = 0
    · rw [if_pos hcount]
      exact range_of_count_eq_zero (hzero.mp hcount)
    rw [if_neg hcount]
    by_cases hparams : start.toNat + count.toNat ≤ s.params.length
    · rw [if_pos hparams]
      exact range_eq_ok.mpr ⟨Nat.lt_of_not_le hend, Or.inr hparams, rfl⟩
    · rw [if_neg hparams]
      have hpos : 0 < count.toNat := Nat.pos_of_ne_zero (mt hzero.mpr hcount)
      exact range_of_missing (Nat.lt_of_not_le hend) hpos (Nat.lt_of_not_le hparams)
  · intro hend params
    exact range_of_overflow hend
  · intro hcount
    exact range_of_count_eq_zero (hzero.mp hcount)
  · intro hcount hparams
    exact isLeast_missingParams (Nat.pos_of_ne_zero (mt hzero.mpr hcount)) hparams

/-- Ranges at the edges, over three parameters: the last index is the one member of a range that is
refused, and the start of one without members; one range ends with the parameters, one a parameter
later, and one starts after them. -/
theorem range_eq_slice_at_edges :
    ∃ (s : Scope) (a b c : Value), s.params = [a, b, c] ∧
      s.range .filter 18446744073709551615 1 =
        Planned.invalid .filter (.paramRange 18446744073709551615 1) ∧
      s.range .filter 18446744073709551615 0 = .ok [] ∧
      s.range .filter 1 2 = .ok [b, c] ∧
      s.range .filter 1 3 = .error (.outOfBounds 3 3) ∧
      IsLeast (missingParams s.params 1 3) 3 ∧
      s.range .filter 5 2 = .error (.outOfBounds 3 5) := by
  let s : Scope := { params := [.int 1, .string "b", .null], identityKey := "_id" }
  obtain ⟨-, hrefused, -⟩ := range_eq_slice s .filter 18446744073709551615 1
  obtain ⟨-, -, hempty, -⟩ := range_eq_slice s .filter 18446744073709551615 0
  obtain ⟨hslice, -⟩ := range_eq_slice s .filter 1 2
  obtain ⟨hlate, -, -, hleast⟩ := range_eq_slice s .filter 1 3
  obtain ⟨hbeyond, -⟩ := range_eq_slice s .filter 5 2
  exact ⟨s, _, _, _, rfl, hrefused (by decide) s.params, hempty rfl, hslice, hlate,
    hleast (by decide) (by decide), hbeyond⟩

end Scope
end DocQuery
