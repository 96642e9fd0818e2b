/-! # Decimal digits

Natural numbers and integers as decimal text, over `List Char`.  `decimal` has no
leading zeros and `number` reads it back; `padded` fills up with zeros on the
left, and `fixed?` reads a field of known width back. -/
namespace DocQuery.Digits

/-- The decimal digits of `n`, without leading zeros; zero is `0`. -/
def decimal (n : Nat) : List Char := Nat.toDigits 10 n

/-- The number that decimal digits spell, the most significant digit first. -/
def number (cs : List Char) : Nat := Nat.ofDigitChars 10 cs 0

theorem number_decimal (n : Nat) : number (decimal n) = n :=
  Nat.ofDigitChars_toDigits (by decide) (by decide)

/-- An integer in decimal, with a minus sign if it is negative. -/
def signed : Int → List Char
  | .ofNat n => decimal n
  | .negSucc n => '-' :: decimal (n + 1)

/-- `n` in decimal, with zeros on the left up to `width` digits. -/
def padded (width n : Nat) : List Char :=
  let ds := decimal n
  List.replicate (width - ds.length) '0' ++ ds

/-- A field of exactly `width` digits at the front, and what follows it. -/
def fixed? (width : Nat) (cs : List Char) : Option (Nat × List Char) :=
  let ds := cs.take width
  if ds.length = width ∧ ds.all Char.isDigit then some (number ds, cs.drop width) else none

/-- The digits at the front, all of them, and what follows them. -/
def span (cs : List Char) : List Char × List Char :=
  (cs.takeWhile Char.isDigit, cs.dropWhile Char.isDigit)

theorem span_append (cs : List Char) : (span cs).1 ++ (span cs).2 = cs :=
  List.takeWhile_append_dropWhile

example : padded 4 27 = ['0', '0', '2', '7'] := by decide
example : fixed? 2 ['0', '7', '-'] = some (7, ['-']) := by decide
example : signed (-30) = ['-', '3', '0'] := by decide

end DocQuery.Digits
