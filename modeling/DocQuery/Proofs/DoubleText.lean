import DocQuery.Proofs.JsonTokens
import Mathlib.Algebra.Group.Nat.Defs
import Mathlib.Data.List.DropRight

/-! # Doubles are written as numbers

The text of a finite double comes out of a search over decimal grids and a layout of the digits
found there.  Here it is shown to be a number that JSON takes (`Double.exists_numeral`): digits
are found, the first of them is no zero, and both notations put digits where JSON wants them.
Whether the digits read back as the same double plays no part. -/
namespace DocQuery

namespace Digits

theorem pow_length_decimal_le {n : Nat} (hn : 0 < n) : 10 ^ ((decimal n).length - 1) ≤ n := by
  by_cases hone : (decimal n).length - 1 = 0
  · rw [hone]
    exact hn
  · refine Nat.le_of_not_lt fun hlt => ?_
    have hle := (Nat.length_toDigits_le_iff (b := 10) (by decide) (by omega)).mpr hlt
    change (decimal n).length ≤ _ at hle
    omega

end Digits

namespace Double

/-! ### The digits found on a grid -/

theorem commonScale_eq (n : Nat) (b : Int) (c : Nat) (k : Int) :
    commonScale n b c k =
      (n * 2 ^ b.toNat * 10 ^ (-k).toNat, c * 10 ^ k.toNat * 2 ^ (-b).toNat) := rfl

/-- A grid gives a point at or above the double rounded down. -/
theorem le_of_onGrid? {tie : Tie} {d : Double} {k : Int} {c : Nat} (h : d.onGrid? tie k = some c) :
    (commonScale (4 * d.mantissa) (d.exponent - 2) 1 k).1 /
      (commonScale (4 * d.mantissa) (d.exponent - 2) 1 k).2 ≤ c := by
  simp only [onGrid?] at h
  split at h
  · cases h
  · cases h; exact Nat.le_refl _
  · cases h; exact Nat.le_succ _
  · split at h
    · cases h; exact Nat.le_refl _
    split at h
    · cases h; exact Nat.le_succ _
    cases tie with
    | toEven => cases h; exact Nat.le_add_right _ _
    | up => cases h; exact Nat.le_succ _

theorem mantissa_pos {d : Double} (hd : d.rank ≠ 0) : 0 < d.mantissa := by
  unfold mantissa hiddenBit
  split <;> omega

theorem two_pow_le_ten_pow (m : Nat) : 2 ^ (16 * m) ≤ 10 ^ (5 * m) := by
  rw [Nat.pow_mul, Nat.pow_mul]
  exact Nat.pow_le_pow_left (by decide) m

/-- A double other than zero is at least one unit of the last of 340 decimal places. -/
theorem one_le_places {d : Double} (hd : d.rank ≠ 0) {e : Nat} (he : e = 340) :
    2 ^ (-(d.exponent - 2)).toNat ≤ 4 * d.mantissa * 2 ^ (d.exponent - 2).toNat * 10 ^ e := by
  have hmantissa := mantissa_pos hd
  have hexponent : (-(d.exponent - 2)).toNat ≤ 16 * (e / 5) := by
    unfold exponent
    omega
  have htwo : 0 < 2 ^ (d.exponent - 2).toNat := Nat.two_pow_pos _
  calc 2 ^ (-(d.exponent - 2)).toNat
      ≤ 2 ^ (16 * (e / 5)) := Nat.pow_le_pow_right (by decide) hexponent
    _ ≤ 10 ^ (5 * (e / 5)) := two_pow_le_ten_pow _
    _ ≤ 1 * 10 ^ e := by
        rw [Nat.one_mul]
        exact Nat.pow_le_pow_right (by decide) (by omega)
    _ ≤ 4 * d.mantissa * 2 ^ (d.exponent - 2).toNat * 10 ^ e :=
        Nat.mul_le_mul_right _ (Nat.mul_pos (by omega) htwo)

/-- The number of places as a variable, so that no power of it is ever computed. -/
theorem firstPlace_eq (d : Double) {e : Nat} (he : e = 340) :
    d.firstPlace = ((Digits.decimal (4 * d.mantissa * 2 ^ (d.exponent - 2).toNat * 10 ^ e /
      2 ^ (-(d.exponent - 2)).toNat)).length : Int) - (e + 1) := by
  have hup : (-(-340 : Int)).toNat = e := by omega
  have hdown : (-340 : Int).toNat = 0 := by decide
  simp only [firstPlace, commonScale_eq]
  rw [hup, hdown, Nat.pow_zero, Nat.one_mul]
  omega

/-- A bound in units of the place `-e` is a bound in any larger unit. -/
theorem scaled_le {p r l e : Nat} {k : Int} (hl : 0 < l) (hk : k ≤ (l : Int) - (e + 1))
    (hlow : 10 ^ (l - 1) * r ≤ p * 10 ^ e) : 10 ^ k.toNat * r ≤ p * 10 ^ (-k).toNat := by
  refine Nat.le_of_mul_le_mul_right ?_ (Nat.pow_pos (n := e) (show 0 < 10 by decide))
  calc 10 ^ k.toNat * r * 10 ^ e
      = 10 ^ (k.toNat + e) * r := by rw [Nat.pow_add, Nat.mul_right_comm]
    _ ≤ 10 ^ (l - 1 + (-k).toNat) * r :=
        Nat.mul_le_mul_right r (Nat.pow_le_pow_right (by decide) (by omega))
    _ = 10 ^ (l - 1) * r * 10 ^ (-k).toNat := by rw [Nat.pow_add, Nat.mul_right_comm]
    _ ≤ p * 10 ^ e * 10 ^ (-k).toNat := Nat.mul_le_mul_right _ hlow
    _ = p * 10 ^ (-k).toNat * 10 ^ e := Nat.mul_right_comm _ _ _

/-- On every grid as fine as the place of its first digit, a double is at least one step. -/
theorem one_le_steps {d : Double} (hd : d.rank ≠ 0) {k : Int} (hk : k ≤ d.firstPlace) :
    1 ≤ (commonScale (4 * d.mantissa) (d.exponent - 2) 1 k).1 /
      (commonScale (4 * d.mantissa) (d.exponent - 2) 1 k).2 := by
  obtain ⟨e, he⟩ : ∃ e : Nat, e = 340 := ⟨_, rfl⟩
  have hplaces := one_le_places hd he
  have hpos := Nat.two_pow_pos (-(d.exponent - 2)).toNat
  rw [d.firstPlace_eq he] at hk
  simp only [commonScale_eq, Nat.one_mul]
  generalize 4 * d.mantissa * 2 ^ (d.exponent - 2).toNat = p at *
  generalize 2 ^ (-(d.exponent - 2)).toNat = r at *
  -- the digits of all places bound the double from below
  have hdigits := Digits.pow_length_decimal_le (Nat.div_pos hplaces hpos)
  have hlength := List.length_pos_of_ne_nil (Digits.isRun_decimal (p * 10 ^ e / r)).ne_nil
  have hstep : 10 ^ k.toNat * r ≤ p * 10 ^ (-k).toNat :=
    scaled_le hlength hk ((Nat.le_div_iff_mul_le hpos).mp hdigits)
  exact Nat.div_pos hstep (Nat.mul_pos (Nat.pow_pos (by decide)) hpos)

/-! ### The shortest decimal -/

/-- Digits that can be laid out: the first is no zero, unless the decimal is zero itself. -/
structure Decimal.IsProper (dec : Decimal) : Prop where
  isRun : Digits.IsRun dec.digits
  eq_zero : dec.digits.head? = some '0' → dec = ⟨['0'], 0⟩

theorem isProper_zero : Decimal.IsProper ⟨['0'], 0⟩ where
  isRun := Digits.isRun_zero
  eq_zero _ := rfl

/-- Zeros at the end of a positive number's digits can be left out. -/
theorem isProper_stripped {c : Nat} (hc : 0 < c) (x : Int) :
    Decimal.IsProper ⟨(Digits.decimal c).rdropWhile (· == '0'), x⟩ := by
  have hfirst := Digits.head?_decimal hc
  have hrun := Digits.isRun_decimal c
  obtain ⟨zeros, happend⟩ := List.rdropWhile_prefix (· == '0') (l := Digits.decimal c)
  have hne : (Digits.decimal c).rdropWhile (· == '0') ≠ [] := by
    intro hnil
    obtain ⟨first, rest, hdigits⟩ := List.exists_cons_of_ne_nil hrun.ne_nil
    have hzero := List.rdropWhile_eq_nil_iff.mp hnil first (by rw [hdigits]; exact List.mem_cons_self)
    rw [hdigits, eq_of_beq hzero] at hfirst
    exact hfirst rfl
  obtain ⟨first, rest, hdigits⟩ := List.exists_cons_of_ne_nil hne
  refine ⟨hrun.subset hne (List.rdropWhile_prefix _ _).subset, fun hzero => absurd ?_ hfirst⟩
  rw [hdigits] at hzero happend
  rw [← happend]
  exact hzero

theorem isProper_shortest (tie : Tie) {d : Double} (hd : d.rank ≠ 0) :
    (d.shortest tie).IsProper := by
  unfold shortest
  dsimp only
  split
  · exact isProper_zero
  · rename_i digits k hfound
    obtain ⟨n, -, hpoint⟩ := List.exists_of_findSome?_eq_some hfound
    obtain ⟨c, hc, hdigits⟩ := Option.map_eq_some_iff.mp hpoint
    cases hdigits
    have hpos : 0 < c := Nat.lt_of_lt_of_le (one_le_steps hd (by omega)) (le_of_onGrid? hc)
    exact isProper_stripped hpos _

/-! ### Layouts -/

open Json.Numeral in
/-- A decimal below one is all fraction, with zeros after the point. -/
theorem exists_numeral_fraction (negative : Bool) {dec : Decimal} (hdec : dec.IsProper)
    (zeros : Nat) : ∃ n : Json.Numeral, n.text = signText negative ++
      ('0' :: '.' :: List.replicate zeros '0' ++ dec.digits) := by
  have hfraction : Digits.IsRun (List.replicate zeros '0' ++ dec.digits) :=
    ⟨List.append_ne_nil_of_right_ne_nil _ hdec.isRun.ne_nil,
      List.forall_mem_append.mpr ⟨Digits.isDigit_zeros zeros, hdec.isRun.isDigit⟩⟩
  refine ⟨⟨negative, ['0'], some (List.replicate zeros '0' ++ dec.digits), none,
    Digits.isRun_zero, fun _ => rfl, ?_⟩, ?_⟩
  · rintro _ ⟨⟩
    exact hfraction
  · simp [Json.Numeral.text, fractionText, exponentText]

open Json.Numeral in
theorem exists_numeral_positional (negative : Bool) {dec : Decimal} (hdec : dec.IsProper) :
    ∃ n : Json.Numeral, n.text = signText negative ++ positional dec := by
  unfold positional
  split
  · exact exists_numeral_fraction negative hdec _
  · generalize hplaces : dec.exponent.toNat + 1 = places
    dsimp only
    obtain ⟨first, rest, hdigits⟩ := List.exists_cons_of_ne_nil hdec.isRun.ne_nil
    have htake : dec.digits.take places = first :: rest.take dec.exponent.toNat := by
      rw [hdigits, ← hplaces, List.take_succ_cons]
    have hne : dec.digits.take places ≠ [] := by
      rw [htake]
      exact List.cons_ne_nil _ _
    have hwhole : Digits.IsRun (dec.digits.take places ++
        List.replicate (places - (dec.digits.take places).length) '0') :=
      ⟨List.append_ne_nil_of_left_ne_nil hne _, List.forall_mem_append.mpr
        ⟨(hdec.isRun.subset hne (List.take_subset _ _)).isDigit, Digits.isDigit_zeros _⟩⟩
    have hfraction : Digits.IsRun (if (dec.digits.drop places).isEmpty = true then ['0']
        else dec.digits.drop places) := by
      split
      · exact Digits.isRun_zero
      · rename_i hne
        exact hdec.isRun.subset (fun hnil => hne (List.isEmpty_iff.mpr hnil))
          (List.drop_subset _ _)
    refine ⟨⟨negative, _, some (if (dec.digits.drop places).isEmpty then ['0']
      else dec.digits.drop places), none, hwhole, fun hhead => ?_, ?_⟩, ?_⟩
    · -- a zero in front is the decimal zero, which has one place
      have hfirst : dec.digits.head? = some '0' := by
        rw [htake] at hhead
        rw [hdigits]
        exact hhead
      have hzero := hdec.eq_zero hfirst
      rw [hzero] at hplaces ⊢
      cases hplaces
      rfl
    · rintro _ ⟨⟩
      exact hfraction
    · simp [Json.Numeral.text, fractionText, exponentText]

open Json.Numeral in
theorem exists_numeral_scientific (negative : Bool) {dec : Decimal} (hdec : dec.IsProper) :
    ∃ n : Json.Numeral, n.text = signText negative ++ scientific true dec := by
  obtain ⟨first, rest, hdigits⟩ := List.exists_cons_of_ne_nil hdec.isRun.ne_nil
  have hdigit : ∀ c ∈ first :: rest, c.isDigit = true := hdigits ▸ hdec.isRun.isDigit
  have hwhole : Digits.IsRun [first] :=
    ⟨by simp, fun c hc => hdigit c (by rw [List.mem_singleton.mp hc]; exact List.mem_cons_self)⟩
  refine ⟨⟨negative, [first], if rest.isEmpty then none else some rest, some dec.exponent, hwhole,
    fun _ => rfl, ?_⟩, ?_⟩
  · intro ds hds
    split at hds
    · cases hds
    · rename_i hne
      cases hds
      exact ⟨fun hnil => hne (List.isEmpty_iff.mpr hnil),
        fun c hc => hdigit c (List.mem_cons_of_mem first hc)⟩
  · unfold scientific
    cases rest <;> simp [Json.Numeral.text, fractionText, exponentText, hdigits]

/-- **Every double is laid out as a number that JSON takes.** -/
theorem exists_numeral (d : Double) :
    ∃ n : Json.Numeral, n.text = d.layOut Json.numberLayout := by
  unfold layOut
  dsimp only
  split
  · refine ⟨⟨d.negative, ['0'], some ['0'], none, Digits.isRun_zero, fun _ => rfl, ?_⟩, rfl⟩
    rintro _ ⟨⟩
    exact Digits.isRun_zero
  · rename_i hd
    have hdec := isProper_shortest Json.numberLayout.tie hd
    split
    · exact exists_numeral_positional d.negative hdec
    · exact exists_numeral_scientific d.negative hdec

end Double
end DocQuery
