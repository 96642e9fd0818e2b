import DocQuery.Calendar.Basic

/-! # Day numbers and dates

Finding the date of a day number and counting the days up to a date are inverse to each other:
`Date.ofDays` gives a day that the calendar has, and `Date.toDays` counts it back.  The year is
found by one correction of the guess from the mean length of a year; the month is found by
walking through lengths, and the walk splits their list at the month it stops in.

A moment adds the milliseconds since midnight, which its hour, minute, second and millisecond
give back. -/
namespace DocQuery.Calendar

/-! ### Years -/

/-- Days in months, or in any stretch of them. -/
def daysIn (lengths : List Nat) : Nat := lengths.foldr (· + ·) 0

@[simp] theorem daysIn_nil : daysIn [] = 0 := rfl

@[simp] theorem daysIn_cons (length : Nat) (rest : List Nat) :
    daysIn (length :: rest) = length + daysIn rest := rfl

theorem daysIn_monthLengths (leap : Bool) :
    daysIn (monthLengths leap) = if leap then 366 else 365 := by
  cases leap <;> rfl

theorem isLeap_iff (year : Int) :
    isLeap year = true ↔ year % 4 = 0 ∧ (year % 100 ≠ 0 ∨ year % 400 = 0) := by
  simp [isLeap]

/-- A year starts when the months of the year before it are over. -/
theorem daysBeforeYear_succ (year : Int) :
    daysBeforeYear (year + 1) = daysBeforeYear year + daysIn (monthLengths (isLeap year)) := by
  rw [daysIn_monthLengths]
  unfold daysBeforeYear
  by_cases hleap : isLeap year = true
  · rw [if_pos hleap]
    have hrule := (isLeap_iff year).mp hleap
    omega
  · rw [if_neg hleap]
    have hrule := mt (isLeap_iff year).mpr hleap
    omega

/-- The year found for a day has started on that day and is not over. -/
theorem daysBeforeYear_yearOf (n : Int) :
    daysBeforeYear (yearOf n) ≤ n ∧ n < daysBeforeYear (yearOf n + 1) := by
  simp only [yearOf]
  split
  · unfold daysBeforeYear at *
    omega
  · split
    · unfold daysBeforeYear at *
      omega
    · omega

/-- Days from the start of year `y` on are in years from `y` on. -/
theorem le_yearOf {y n : Int} (h : daysBeforeYear y ≤ n) : y ≤ yearOf n := by
  have hend := (daysBeforeYear_yearOf n).2
  unfold daysBeforeYear at h hend
  omega

/-! ### Months -/

/-- The walk stops in the month that holds the day: it has passed the months before it and not
the month itself. -/
theorem inMonths_eq (month : Nat) {lengths : List Nat} {n : Nat} (h : n < daysIn lengths) :
    ∃ before length after, lengths = before ++ length :: after ∧ daysIn before ≤ n ∧
      n < daysIn before + length ∧
      inMonths month lengths n = (month + before.length, n - daysIn before + 1) := by
  induction lengths generalizing month n with
  | nil => exact absurd h (Nat.not_lt_zero n)
  | cons first rest ih =>
    rw [inMonths]
    by_cases hn : n < first
    · refine ⟨[], first, rest, rfl, Nat.zero_le n, ?_, ?_⟩
      · simpa using hn
      · simp [hn]
    · rw [daysIn_cons] at h
      have hrest : n - first < daysIn rest := by omega
      obtain ⟨before, length, after, rfl, hle, hlt, heq⟩ := ih (month + 1) hrest
      refine ⟨first :: before, length, after, rfl, ?_, ?_, ?_⟩
      · rw [daysIn_cons]
        omega
      · rw [daysIn_cons]
        omega
      · rw [if_neg hn, heq, daysIn_cons, List.length_cons, Nat.sub_sub]
        congr 1
        omega

/-! ### Dates -/

namespace Date

/-- The date of a day number in its parts: the months before it, its own month and the days of
the month before it. -/
theorem ofDays_eq (n : Int) :
    ∃ before length after, ∃ k < length,
      monthLengths (isLeap (yearOf (n + epoch))) = before ++ length :: after ∧
      ofDays n = ⟨yearOf (n + epoch), before.length + 1, k + 1⟩ ∧
      n + epoch = daysBeforeYear (yearOf (n + epoch)) + daysIn before + k := by
  obtain ⟨hstart, hend⟩ := daysBeforeYear_yearOf (n + epoch)
  rw [daysBeforeYear_succ] at hend
  have hday : (n + epoch - daysBeforeYear (yearOf (n + epoch))).toNat <
      daysIn (monthLengths (isLeap (yearOf (n + epoch)))) := by omega
  obtain ⟨before, length, after, hsplit, hle, hlt, heq⟩ := inMonths_eq 1 hday
  refine ⟨before, length, after, _, Nat.sub_lt_left_of_lt_add hle hlt, hsplit, ?_, by omega⟩
  simp only [ofDays, heq, Nat.add_comm 1]

/-- Every day number has a date. -/
theorem isValid_ofDays (n : Int) : (ofDays n).isValid = true := by
  obtain ⟨before, length, after, k, hk, hsplit, heq, -⟩ := ofDays_eq n
  rw [heq]
  simpa [isValid, hsplit] using Nat.succ_le_of_lt hk

/-- Counting the days up to a date undoes finding the date. -/
theorem toDays_ofDays (n : Int) : (ofDays n).toDays = n := by
  obtain ⟨before, length, after, k, -, hsplit, heq, hn⟩ := ofDays_eq n
  have hbefore : (monthLengths (isLeap (yearOf (n + epoch)))).take (before.length + 1 - 1) =
      before := by
    rw [hsplit, Nat.add_sub_cancel, List.take_left']
    rfl
  rw [heq]
  simp only [toDays, hbefore]
  change _ + ((daysIn before : Nat) : Int) + _ - 1 - epoch = n
  omega

theorem year_ofDays (n : Int) : (ofDays n).year = yearOf (n + epoch) := rfl

/-- From the start of 1970 on, years are at least 1970. -/
theorem le_year_ofDays {n : Int} (hn : 0 ≤ n) : 1970 ≤ (ofDays n).year := by
  rw [year_ofDays]
  apply le_yearOf
  have hepoch : daysBeforeYear 1970 = epoch := by decide
  omega

/-- A year has at most twelve months, of at most 31 days. -/
theorem bounds_of_isValid {d : Date} (hd : d.isValid = true) : d.month ≤ 12 ∧ d.day ≤ 31 := by
  simp only [isValid, Bool.and_eq_true, decide_eq_true_eq] at hd
  obtain ⟨⟨hmonth, hday⟩, hlength⟩ := hd
  have hlt : d.month - 1 < 12 := by
    refine Nat.lt_of_not_le fun hge => ?_
    rw [List.getD_eq_getElem?_getD, List.getElem?_eq_none hge, Option.getD_none] at hlength
    omega
  have hlengths : ∀ leap, ∀ k < 12, (monthLengths leap).getD k 0 ≤ 31 := by decide
  exact ⟨by omega, Nat.le_trans hlength (hlengths _ _ hlt)⟩

end Date

/-! ### Moments -/

namespace Moment

theorem millis_ofMillis_lt (n : Int) : (ofMillis n).millis < dayLength := by
  change (n % dayLength).toNat < dayLength
  unfold dayLength
  omega

theorem toMillis_ofMillis (n : Int) : (ofMillis n).toMillis = n := by
  change (Date.ofDays (n / dayLength)).toDays * dayLength + ((n % dayLength).toNat : Int) = n
  rw [Date.toDays_ofDays]
  unfold dayLength
  omega

theorem isValid_date_ofMillis (n : Int) : (ofMillis n).date.isValid = true :=
  Date.isValid_ofDays (n / dayLength)

theorem le_year_ofMillis {n : Int} (hn : 0 ≤ n) : 1970 ≤ (ofMillis n).date.year :=
  Date.le_year_ofDays (Int.ediv_nonneg hn (by decide))

theorem hour_lt {m : Moment} (h : m.millis < dayLength) : m.hour < 24 := by
  unfold hour
  unfold dayLength at h
  omega

/-- The parts of the time of day give it back. -/
theorem millis_eq (m : Moment) :
    ((m.hour * 60 + m.minute) * 60 + m.second) * 1000 + m.milli = m.millis := by
  unfold hour minute second milli
  omega

end Moment

end DocQuery.Calendar
