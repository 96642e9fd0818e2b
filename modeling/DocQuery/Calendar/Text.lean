import DocQuery.Calendar.Basic
import DocQuery.Text.Digits

/-! # Moments as text

`rfc3339` writes a moment in Coordinated Universal Time and `readRfc3339?` reads a
moment with any offset.  The reader takes `T`, `t` or a blank between date and time,
`Z` or `z` for no offset, a leap second (`:60`) in any minute, and any number of
decimals of the second, of which it keeps three. -/
namespace DocQuery.Calendar

open Digits

/-- Decimals of a second without trailing zeros. -/
def decimals (milli : Nat) : List Char :=
  ((padded 3 milli).reverse.dropWhile (· == '0')).reverse

/-- A moment as `YYYY-MM-DDTHH:MM:SS[.fff]Z`, for years of four digits. -/
def Moment.rfc3339 (m : Moment) : List Char :=
  padded 4 m.date.year.toNat ++ '-' :: padded 2 m.date.month ++ '-' :: padded 2 m.date.day ++
    'T' :: padded 2 m.hour ++ ':' :: padded 2 m.minute ++ ':' :: padded 2 m.second ++
    (if m.milli = 0 then [] else '.' :: decimals m.milli) ++ ['Z']

/-- A year of a diagnostic: at least four digits, with a sign unless there are four. -/
def signedYear (year : Int) : List Char :=
  if 0 ≤ year ∧ year < 10000 then padded 4 year.toNat
  else (if year < 0 then '-' else '+') :: padded 4 year.natAbs

/-- A moment as diagnostics show it. -/
def Moment.describe (m : Moment) : List Char :=
  signedYear m.date.year ++ '-' :: padded 2 m.date.month ++ '-' :: padded 2 m.date.day ++
    ' ' :: decimal m.hour ++ ':' :: padded 2 m.minute ++ ':' :: padded 2 m.second ++
    '.' :: (if m.milli = 0 then ['0'] else decimals m.milli) ++
    [' ', '+', '0', '0', ':', '0', '0', ':', '0', '0']

/-! ### Reading -/

/-- The text after an expected character. -/
def after? (c : Char) : List Char → Option (List Char)
  | [] => none
  | c' :: rest => if c' = c then some rest else none

/-- Milliseconds from the decimals of a second, if there are any. -/
def readDecimals : List Char → Option (Nat × List Char)
  | '.' :: cs =>
      let (digits, rest) := span cs
      if digits.isEmpty then none
      else some (number ((digits ++ ['0', '0', '0']).take 3), rest)
  | cs => some (0, cs)

/-- Minutes of an offset from Coordinated Universal Time. -/
def readOffset : List Char → Option (Int × List Char)
  | [] => none
  | sign :: rest =>
      if sign = 'Z' ∨ sign = 'z' then some (0, rest)
      else if sign = '+' ∨ sign = '-' ∨ sign = '−' then do
        let (hours, rest) ← fixed? 2 rest
        let rest ← after? ':' rest
        let (minutes, rest) ← fixed? 2 rest
        let offset : Int := hours * 60 + minutes
        if hours < 24 ∧ minutes < 60 then
          some (if sign = '+' then offset else -offset, rest)
        else none
      else none

/-- Whether a character may stand between date and time. -/
def isSeparator (c : Char) : Bool := c = 'T' || c = 't' || c = ' '

/-- The milliseconds from the start of 1970 that a text names. -/
def readRfc3339? (cs : List Char) : Option Int := do
  let (year, cs) ← fixed? 4 cs
  let cs ← after? '-' cs
  let (month, cs) ← fixed? 2 cs
  let cs ← after? '-' cs
  let (day, cs) ← fixed? 2 cs
  let (separator, cs) ← cs.head?.map (·, cs.tail)
  let (hour, cs) ← fixed? 2 cs
  let cs ← after? ':' cs
  let (minute, cs) ← fixed? 2 cs
  let cs ← after? ':' cs
  let (second, cs) ← fixed? 2 cs
  let (milli, cs) ← readDecimals cs
  let (offset, cs) ← readOffset cs
  let date : Date := ⟨year, month, day⟩
  if isSeparator separator && date.isValid && hour < 24 && minute < 60 && second ≤ 60 &&
      cs.isEmpty then
    let time := ((hour * 60 + minute) * 60 + second) * 1000 + milli
    some (date.toDays * Moment.dayLength + time - offset * 60000)
  else none

example : (Moment.ofMillis 1704164645100).rfc3339 = "2024-01-02T03:04:05.1Z".toList := by
  decide +kernel
example : readRfc3339? "2024-02-29T12:00:00+05:30".toList = some 1709188200000 := by
  decide +kernel
example : readRfc3339? "2100-02-29T00:00:00Z".toList = none := by decide +kernel

end DocQuery.Calendar
