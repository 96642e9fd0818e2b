import DocQuery.Text.Digits

/-! # Decimal numbers of the store

A `Decimal128` is the 128 bits of an IEEE 754 decimal whose coefficient is a binary integer: a sign,
fourteen bits of exponent and a coefficient of at most 34 decimal digits.  Nothing is computed with
such numbers; they have a text only.  A coefficient of more digits counts as zero. -/
namespace DocQuery

/-- A decimal number by its bytes, the least significant one first. -/
structure Decimal128 where
  bytes : List UInt8
  length_eq : bytes.length = 16
  deriving DecidableEq

namespace Decimal128

/-- All bits as one number. -/
def bits (d : Decimal128) : Nat := d.bytes.foldr (fun byte n => byte.toNat + 256 * n) 0

/-- The number of `width` bits, the lowest of which has the weight `2 ^ low`. -/
def field (d : Decimal128) (low width : Nat) : Nat := d.bits / Nat.pow 2 low % Nat.pow 2 width

def negative (d : Decimal128) : Bool := d.field 127 1 = 1

/-- Infinities and NaNs have the four bits below the sign set. -/
def isSpecial (d : Decimal128) : Bool := d.field 123 4 = 15

def isNaN (d : Decimal128) : Bool := d.isSpecial && d.field 122 1 = 1

/-- Whether the coefficient starts with `100`, three bits that are not stored. -/
def isLong (d : Decimal128) : Bool := d.field 125 2 = 3

/-- The largest coefficient, which has 34 digits. -/
def maxCoefficient : Nat := 9999999999999999999999999999999999

/-- The coefficient of a finite number.  One that starts with `100` is always too large. -/
def coefficient (d : Decimal128) : Nat :=
  if d.isLong ∨ maxCoefficient < d.field 0 113 then 0 else d.field 0 113

/-- The exponent of ten of a finite number. -/
def exponent (d : Decimal128) : Int := (if d.isLong then d.field 111 14 else d.field 113 14) - 6176

/-! ### Text -/

/-- Digits with a point before the last `places` of them. -/
def pointed (digits : List Char) (places : Nat) : List Char :=
  if places = 0 then digits
  else if digits.length ≤ places then
    '0' :: '.' :: List.replicate (places - digits.length) '0' ++ digits
  else digits.take (digits.length - places) ++ '.' :: digits.drop (digits.length - places)

/-- Digits with a point after the first, and the exponent of the first. -/
def scientific (digits : List Char) (first : Int) : List Char :=
  let fraction := digits.drop 1
  digits.take 1 ++ (if fraction.isEmpty then [] else '.' :: fraction) ++ 'E' ::
    ((if 0 < first then ['+'] else []) ++ Digits.signed first)

/-- The text of a finite number without its sign; it has no exponent if none is needed and the first
digit is near the point. -/
def magnitude (d : Decimal128) : List Char :=
  let digits := Digits.decimal d.coefficient
  let first := d.exponent + digits.length - 1
  if d.exponent ≤ 0 ∧ -6 ≤ first then pointed digits (-d.exponent).toNat
  else scientific digits first

/-- The text of a number; a NaN has no sign. -/
def text (d : Decimal128) : String :=
  if d.isNaN then "NaN"
  else
    (if d.negative then "-" else "") ++
      if d.isSpecial then "Infinity" else String.ofList d.magnitude

end Decimal128
end DocQuery
