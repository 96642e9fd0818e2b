/-! # Double precision numbers

A `Double` is the 64 bits of an IEEE 754 binary64 number: one sign bit, eleven
exponent bits and 52 fraction bits.  Without its sign a double is a *rank*, its
place on the ascending line of magnitudes: zero, the subnormal and the normal
numbers, infinity, and the NaNs behind it.

Nothing here computes with machine floats.  `ofRatio` rounds a quotient of natural
numbers to the nearest double in exact arithmetic, a half going to the even
neighbour, and integers and decimals are read through it. -/
namespace DocQuery

/-- A binary64 number by its bits. -/
structure Double where
  /-- Sign, exponent and fraction, from the most significant bit down. -/
  bits : UInt64
  deriving DecidableEq, Repr, Inhabited

namespace Double

/-- The weight of the sign bit, `2 ^ 63`. -/
def signBit : Nat := 0x8000000000000000

/-- The weight of the bit above the fraction, `2 ^ 52`.  Normal numbers have it without storing
it. -/
def hiddenBit : Nat := 0x10000000000000

/-- The rank of infinity; the ranks above it are the NaNs. -/
def infinityRank : Nat := 2047 * hiddenBit

/-- The double with a given sign and rank. -/
def ofRank (negative : Bool) (rank : Nat) : Double :=
  ⟨UInt64.ofNat (rank + if negative then signBit else 0)⟩

/-- The sign bit. -/
def negative (d : Double) : Bool := signBit ≤ d.bits.toNat

/-- The bits below the sign bit, as a number. -/
def rank (d : Double) : Nat := d.bits.toNat % signBit

def isNaN (d : Double) : Bool := infinityRank < d.rank

def isFinite (d : Double) : Bool := d.rank < infinityRank

def zero (negative : Bool) : Double := ofRank negative 0

def infinity (negative : Bool) : Double := ofRank negative infinityRank

def nan : Double := ofRank false (infinityRank + hiddenBit / 2)

/-- The integer factor of a finite magnitude, which is `mantissa * 2 ^ exponent`. -/
def mantissa (d : Double) : Nat :=
  if d.rank < hiddenBit then d.rank else d.rank % hiddenBit + hiddenBit

/-- The power of two of a finite magnitude. -/
def exponent (d : Double) : Int := max (d.rank / hiddenBit : Nat) 1 - 1075

/-- Equality of numbers: a NaN differs from everything, and the two zeros are
equal. -/
def same (a b : Double) : Bool :=
  !a.isNaN && !b.isNaN && (a == b || (a.rank == 0 && b.rank == 0))

/-! ### Rounding -/

/-- `num / den` rounded to the nearest natural number, a half to the even one. -/
def roundDiv (num den : Nat) : Nat :=
  let q := num / den
  let r := num % den
  if 2 * r < den then q
  else if den < 2 * r then q + 1
  else q + q % 2

/-- `num / den` with the factor `2 ^ -e` carried out, again as a quotient. -/
def scaled (num den : Nat) (e : Int) : Nat × Nat :=
  if 0 ≤ e then (num, den * Nat.pow 2 e.toNat) else (num * Nat.pow 2 (-e).toNat, den)

/-- The exponent at which `num / den` has a mantissa of 53 bits, but never below the
exponent of the subnormal numbers. -/
def exponentOf (num den : Nat) : Int :=
  let e : Int := (num.log2 : Int) - den.log2 - 52
  let (n, d) := scaled num den e
  max (if n / d < hiddenBit then e - 1 else e) (-1074)

/-- The double nearest to `num / den`, infinity when that is too large.  At exponent
`e` the rank of the mantissa `m` is `(e + 1074) * 2 ^ 52 + m`, and this stays right
when rounding carries `m` up to the next power of two. -/
def ofRatio (negative : Bool) (num den : Nat) : Double :=
  if num = 0 then zero negative
  else
    let e := exponentOf num den
    let (n, d) := scaled num den e
    ofRank negative (min ((e + 1074).toNat * hiddenBit + roundDiv n d) infinityRank)

/-- The double nearest to an integer. -/
def ofInt (n : Int) : Double := ofRatio (n < 0) n.natAbs 1

/-! ### Decimals

A decimal is read by a product or a quotient of doubles: its digits are rounded to a double first,
and the result of scaling them is rounded once more.  So the double that is read need not be the
nearest one, and a decimal a little below the largest double can already be too large. -/

/-- The value of a finite magnitude as a quotient. -/
def ratio (d : Double) : Nat × Nat :=
  (d.mantissa * Nat.pow 2 d.exponent.toNat, Nat.pow 2 (-d.exponent).toNat)

/-- The product of two finite magnitudes. -/
def mul (a b : Double) : Double :=
  ofRatio false (a.ratio.1 * b.ratio.1) (a.ratio.2 * b.ratio.2)

/-- The quotient of two finite magnitudes, of which the second is not zero. -/
def div (a b : Double) : Double :=
  ofRatio false (a.ratio.1 * b.ratio.2) (a.ratio.2 * b.ratio.1)

/-- The exponent of the largest power of ten among the doubles. -/
def maxTenPower : Nat := 308

/-- The double nearest to a power of ten. -/
def tenPower (n : Nat) : Double := ofRatio false (Nat.pow 10 n) 1

/-- Divides by the largest power of ten again and again, as long as anything is left. -/
def shrink : Nat → Double → Double
  | 0, d => d
  | rounds + 1, d => if d.rank = 0 then d else shrink rounds (d.div (tenPower maxTenPower))

/-- The double that `digits * 10 ^ e` is read as, unless it comes out too large.  A quotient by more
than the largest power of ten is taken in rounds. -/
def ofDecimal? (negative : Bool) (digits : Nat) (e : Int) : Option Double :=
  let d := ofRatio false digits 1
  if e < 0 then
    let places := (-e).toNat
    let rounds := (places - 1) / maxTenPower
    let quotient := (shrink rounds d).div (tenPower (places - rounds * maxTenPower))
    some (ofRank negative quotient.rank)
  else if maxTenPower < e then
    if d.rank = 0 then some (zero negative) else none
  else
    let product := d.mul (tenPower e.toNat)
    if product.isFinite then some (ofRank negative product.rank) else none

example : (ofInt 1).bits = 0x3FF0000000000000 := by decide +kernel
example : ofInt 9007199254740993 = ofInt 9007199254740992 := by decide +kernel
example : (ofDecimal? false 5 (-324)).map bits = some 1 := by decide +kernel
example : (ofDecimal? true 5 (-2000)).map bits = some 0x8000000000000000 := by decide +kernel
example : ofDecimal? false 1797693134862315708 290 = none := by decide +kernel

end Double
end DocQuery
