import DocQuery.Proofs.CalendarDays
import DocQuery.Proofs.PlainValues
import DocQuery.Value.Cast

/-! # Casting what was printed

Object ids and dates are printed inside wrappers that plain JSON reads as documents.  The strings
in the wrappers are in the forms that casts take: casting them gives the id or the date back.

For dates this is a round trip through the text of a moment.  Each of its fields is read off the
front of the text whatever follows it, and the decimals of the second, which are written without
trailing zeros, get their zeros back (`Calendar.readRfc3339?_rfc3339`). -/
namespace DocQuery

/-! ### Fields of digits -/

namespace Digits

theorem length_padded {width n : Nat} (hwidth : 0 < width) (hn : n < 10 ^ width) :
    (padded width n).length = width := by
  have hle : (decimal n).length ≤ width :=
    (Nat.length_toDigits_le_iff (by decide) hwidth).mpr hn
  rw [padded, List.length_append, List.length_replicate, Nat.sub_add_cancel hle]

theorem isDigit_padded (width n : Nat) : ∀ c ∈ padded width n, c.isDigit = true :=
  List.forall_mem_append.mpr ⟨isDigit_zeros _, (isRun_decimal n).isDigit⟩

theorem number_padded (width n : Nat) : number (padded width n) = n := by
  rw [number, padded, Nat.ofDigitChars_append, Nat.ofDigitChars_replicate_zero, Nat.mul_zero]
  exact number_decimal n

/-- A field is read off the front of a text, whatever follows it. -/
theorem fixed?_padded {width n : Nat} (hwidth : 0 < width) (hn : n < 10 ^ width)
    (rest : List Char) : fixed? width (padded width n ++ rest) = some (n, rest) := by
  have hlength := length_padded hwidth hn
  have htake : (padded width n ++ rest).take width = padded width n := List.take_left' hlength
  have hdrop : (padded width n ++ rest).drop width = rest := List.drop_left' hlength
  have hdigits : (padded width n).all Char.isDigit = true :=
    List.all_eq_true.mpr (isDigit_padded width n)
  simp only [fixed?, htake, hdrop]
  rw [if_pos ⟨hlength, hdigits⟩, number_padded]

end Digits

/-! ### Moments -/

namespace Calendar

open Digits

/-- The decimals of a second leave out nothing but zeros. -/
theorem padded_eq_decimals_append (milli : Nat) :
    ∃ k, padded 3 milli = decimals milli ++ List.replicate k '0' := by
  let zeros := (padded 3 milli).reverse.takeWhile (· == '0')
  have hzeros : zeros = List.replicate zeros.length '0' := by
    refine List.eq_replicate_of_mem fun c hc => ?_
    have hzero : (c == '0') = true := List.mem_takeWhile_imp (p := (· == '0')) hc
    exact eq_of_beq hzero
  refine ⟨zeros.length, ?_⟩
  rw [← List.reverse_replicate, ← hzeros, decimals, ← List.reverse_append,
    List.takeWhile_append_dropWhile, List.reverse_reverse]

theorem decimals_ne_nil {milli : Nat} (hmilli : milli ≠ 0) : decimals milli ≠ [] := by
  intro hnil
  obtain ⟨k, hpadded⟩ := padded_eq_decimals_append milli
  apply hmilli
  rw [← number_padded 3 milli, hpadded, hnil, List.nil_append, number,
    Nat.ofDigitChars_replicate_zero, Nat.mul_zero]

/-- The zeros that the decimals of a second leave out are put back. -/
theorem take_decimals {milli : Nat} (hmilli : milli < 1000) :
    (decimals milli ++ ['0', '0', '0']).take 3 = padded 3 milli := by
  obtain ⟨k, hpadded⟩ := padded_eq_decimals_append milli
  have hlength := congrArg List.length hpadded
  rw [length_padded (by decide) hmilli, List.length_append, List.length_replicate] at hlength
  have hk : min (3 - (decimals milli).length) 3 = k := by omega
  have hmissing : (['0', '0', '0'] : List Char).take (3 - (decimals milli).length) =
      List.replicate k '0' := by
    change (List.replicate 3 '0').take _ = _
    rw [List.take_replicate, hk]
  rw [List.take_append, List.take_of_length_le (by omega), hmissing, hpadded]

/-- The fraction of a second is read up to the end of the text. -/
theorem readDecimals_fraction {milli : Nat} (hmilli : milli < 1000) :
    readDecimals ((if milli = 0 then [] else '.' :: decimals milli) ++ ['Z']) =
      some (milli, ['Z']) := by
  by_cases hzero : milli = 0
  · rw [if_pos hzero, hzero]
    rfl
  · obtain ⟨k, hpadded⟩ := padded_eq_decimals_append milli
    have hdigits : ∀ c ∈ decimals milli, c.isDigit = true := by
      intro c hc
      refine isDigit_padded 3 milli c ?_
      rw [hpadded]
      exact List.mem_append_left _ hc
    have hspan : span (decimals milli ++ ['Z']) = (decimals milli, ['Z']) :=
      span_eq hdigits fun c hc => by cases hc; rfl
    have hne : (decimals milli).isEmpty = false :=
      List.isEmpty_eq_false_iff.mpr (decimals_ne_nil hzero)
    rw [if_neg hzero]
    simp [readDecimals, hspan, hne, take_decimals hmilli, number_padded]

theorem after?_cons (c : Char) (rest : List Char) : after? c (c :: rest) = some rest := if_pos rfl

/-- Every moment of a year with at most four digits is read back from its text. -/
theorem readRfc3339?_rfc3339 {m : Moment} (hdate : m.date.isValid = true)
    (hmillis : m.millis < Moment.dayLength) (hfirst : 0 ≤ m.date.year)
    (hlast : m.date.year ≤ 9999) : readRfc3339? m.rfc3339 = some m.toMillis := by
  obtain ⟨hmonth, hday⟩ := Date.bounds_of_isValid hdate
  have hhour : m.hour < 24 := Moment.hour_lt hmillis
  have hminute : m.minute < 60 := Nat.mod_lt _ (by decide)
  have hsecond : m.second < 60 := Nat.mod_lt _ (by decide)
  have hmilli : m.milli < 1000 := Nat.mod_lt _ (by decide)
  have hyear : (m.date.year.toNat : Int) = m.date.year := Int.toNat_of_nonneg hfirst
  rw [Moment.rfc3339]
  simp only [List.append_assoc, List.cons_append]
  -- a field at a time, each with the rest of the text behind it
  refine Option.bind_eq_some_iff.mpr ⟨_, fixed?_padded (by decide) (by omega) _, ?_⟩
  refine Option.bind_eq_some_iff.mpr ⟨_, after?_cons _ _, ?_⟩
  refine Option.bind_eq_some_iff.mpr ⟨_, fixed?_padded (by decide) (by omega) _, ?_⟩
  refine Option.bind_eq_some_iff.mpr ⟨_, after?_cons _ _, ?_⟩
  refine Option.bind_eq_some_iff.mpr ⟨_, fixed?_padded (by decide) (by omega) _, ?_⟩
  refine Option.bind_eq_some_iff.mpr ⟨_, rfl, ?_⟩
  refine Option.bind_eq_some_iff.mpr ⟨_, fixed?_padded (by decide) (by omega) _, ?_⟩
  refine Option.bind_eq_some_iff.mpr ⟨_, after?_cons _ _, ?_⟩
  refine Option.bind_eq_some_iff.mpr ⟨_, fixed?_padded (by decide) (by omega) _, ?_⟩
  refine Option.bind_eq_some_iff.mpr ⟨_, after?_cons _ _, ?_⟩
  refine Option.bind_eq_some_iff.mpr ⟨_, fixed?_padded (by decide) (by omega) _, ?_⟩
  refine Option.bind_eq_some_iff.mpr ⟨_, readDecimals_fraction hmilli, ?_⟩
  refine Option.bind_eq_some_iff.mpr ⟨_, rfl, ?_⟩
  have haccepted : (isSeparator 'T' && m.date.isValid && decide (m.hour < 24) &&
      decide (m.minute < 60) && decide (m.second ≤ 60) && ([] : List Char).isEmpty) = true := by
    simp [isSeparator, hdate, hhour, hminute, Nat.le_of_lt hsecond]
  dsimp only
  rw [hyear, if_pos haccepted, m.millis_eq, Int.zero_mul, Int.sub_zero]
  rfl

end Calendar

/-! ### Casts -/

/-- A scalar that is printed as a string in a wrapper is read as that string in that wrapper. -/
theorem Value.parse?_text_wrapped {s : Scalar} {key str : String}
    (hs : s.toJson = .obj [(key, .str str)]) :
    Value.parse? (Value.scalar s).text = some (.wrapped key (.string str)) := by
  have hexact : (Json.obj [(key, .str str)]).isExact = true := rfl
  have hdepth : (Json.obj [(key, .str str)]).depth ≤ Json.nestingLimit := by
    show 1 ≤ Json.nestingLimit
    decide
  have htext : (Value.scalar s).text = (Json.obj [(key, .str str)]).text := congrArg Json.text hs
  rw [Value.parse?, htext, Json.parse?_text_of_isExact hexact hdepth]
  rfl

namespace Cast

theorem value?_hex (id : ObjectId) :
    Cast.objectId.value? (.string (String.ofList id.hex)) = some (.scalar (.objectId id)) := by
  simp only [value?, scalar?, String.toList_ofList, ObjectId.ofHex?_hex, Option.map_some]

theorem value?_rfc3339 {millis : Int64} (hmillis : 0 ≤ millis.toInt)
    (hyear : (Calendar.Moment.ofMillis millis.toInt).date.year ≤ 9999) :
    Cast.dateTime.value? (.string (String.ofList (Calendar.Moment.ofMillis millis.toInt).rfc3339)) =
      some (.scalar (.date millis)) := by
  have hfirst := Calendar.Moment.le_year_ofMillis hmillis
  have hread := Calendar.readRfc3339?_rfc3339 (Calendar.Moment.isValid_date_ofMillis millis.toInt)
    (Calendar.Moment.millis_ofMillis_lt millis.toInt) (by omega) hyear
  rw [Calendar.Moment.toMillis_ofMillis] at hread
  simp only [value?, scalar?, String.toList_ofList, hread, Option.map_some, Int64.ofInt_toInt]

/-- **What is printed can be cast back.**  The text of an object id, or of a date from 1970 to the
year 9999, is a wrapper around a string, and casting that string gives the id or the date. -/
theorem value?_of_printed :
    (∀ id : ObjectId, ∃ str,
      Value.parse? (Value.scalar (.objectId id)).text = some (.wrapped "$oid" (.string str)) ∧
        Cast.objectId.value? (.string str) = some (.scalar (.objectId id))) ∧
    ∀ millis : Int64, 0 ≤ millis.toInt →
      (Calendar.Moment.ofMillis millis.toInt).date.year ≤ 9999 → ∃ str,
        Value.parse? (Value.scalar (.date millis)).text = some (.wrapped "$date" (.string str)) ∧
          Cast.dateTime.value? (.string str) = some (.scalar (.date millis)) := by
  constructor
  · intro id
    exact ⟨_, Value.parse?_text_wrapped rfl, value?_hex id⟩
  · intro millis hmillis hyear
    have hjson : Scalar.toJson (.date millis) = .obj [("$date",
        .str (String.ofList (Calendar.Moment.ofMillis millis.toInt).rfc3339))] :=
      if_pos ⟨hmillis, hyear⟩
    exact ⟨_, Value.parse?_text_wrapped hjson, value?_rfc3339 hmillis hyear⟩

/-- The leap day of a century, with two decimals of a second. -/
theorem value?_of_printed_leap_day :
    0 ≤ (951827696780 : Int64).toInt ∧
      (Calendar.Moment.ofMillis (951827696780 : Int64).toInt).date = ⟨2000, 2, 29⟩ ∧
      ∃ str,
        Value.parse? (Value.scalar (.date 951827696780)).text =
          some (.wrapped "$date" (.string str)) ∧
        Cast.dateTime.value? (.string str) = some (.scalar (.date 951827696780)) := by
  have hmillis : 0 ≤ (951827696780 : Int64).toInt := by decide
  have hdate : (Calendar.Moment.ofMillis (951827696780 : Int64).toInt).date = ⟨2000, 2, 29⟩ := by
    decide
  refine ⟨hmillis, hdate, value?_of_printed.2 _ hmillis ?_⟩
  rw [hdate]
  decide

end Cast
end DocQuery
