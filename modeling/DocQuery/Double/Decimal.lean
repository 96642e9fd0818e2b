import DocQuery.Double.Basic
import DocQuery.Text.Digits

/-! # Shortest decimals

The decimal text of a double has the fewest digits that read back as that double.
The reals that round to a double form an interval around it, with its ends
included iff the mantissa is even.  Of the decimal grids of step `10 ^ k` the
coarsest one with a point in that interval is taken, and on it the point nearest
to the double.

How the digits are laid out is a `Layout`: which exponents are written
positionally, whether a positive exponent has a sign, and where an exact tie
between two nearest points goes. -/
namespace DocQuery.Double

/-- Digits `d₁ d₂ … dₙ` and the exponent `x` of the first one: `d₁.d₂…dₙ * 10 ^ x`. -/
structure Decimal where
  digits : List Char
  exponent : Int
  deriving DecidableEq

/-- Where an exact tie between two neighbours goes. -/
inductive Tie where
  | toEven
  | up
  deriving DecidableEq

/-- Both sides of a comparison between `n * 2 ^ b` and `c * 10 ^ k` as natural numbers. -/
def commonScale (n : Nat) (b : Int) (c : Nat) (k : Int) : Nat × Nat :=
  (n * Nat.pow 2 b.toNat * Nat.pow 10 (-k).toNat,
    c * Nat.pow 10 k.toNat * Nat.pow 2 (-b).toNat)

/-- The interval of a finite double in quarters of its last place: the lower end, the
double itself and the upper end, each to be multiplied by `2 ^ (exponent - 2)`.  Below a
power of two the numbers lie twice as dense. -/
def interval (d : Double) : Nat × Nat × Nat :=
  let m := d.mantissa
  (if m = hiddenBit ∧ -1074 < d.exponent then 4 * m - 1 else 4 * m - 2, 4 * m, 4 * m + 2)

/-- Whether `c * 10 ^ k` reads back as the finite double `d`. -/
def readsBack (d : Double) (c : Nat) (k : Int) : Bool :=
  let (low, _, high) := d.interval
  let b := d.exponent - 2
  let (low, atLow) := commonScale low b c k
  let (high, atHigh) := commonScale high b c k
  if d.mantissa % 2 = 0 then low ≤ atLow && atHigh ≤ high else low < atLow && atHigh < high

/-- The point of the grid of step `10 ^ k` that is nearest to `d` among those that read
back, if there is one.  It is one of the two neighbours of `d` on the grid. -/
def onGrid? (tie : Tie) (d : Double) (k : Int) : Option Nat :=
  let (value, step) := commonScale (4 * d.mantissa) (d.exponent - 2) 1 k
  let c := value / step
  let rest := value % step
  match d.readsBack c k, d.readsBack (c + 1) k with
  | false, false => none
  | true, false => some c
  | false, true => some (c + 1)
  | true, true =>
      if 2 * rest < step then some c
      else if step < 2 * rest then some (c + 1)
      else match tie with
        | .toEven => some (c + c % 2)
        | .up => some (c + 1)

/-- The exponent of the first decimal digit of a finite nonzero double, read off the
number of digits of its 340 decimal places. -/
def firstPlace (d : Double) : Int :=
  let (value, one) := commonScale (4 * d.mantissa) (d.exponent - 2) 1 (-340)
  (Digits.decimal (value / one)).length - 341

/-- The shortest decimal of a finite nonzero double without its sign.  Seventeen digits
always read back, so one of the seventeen grids has a point. -/
def shortest (tie : Tie) (d : Double) : Decimal :=
  let x := d.firstPlace
  let found := (List.range 17).findSome? fun (n : Nat) =>
    (d.onGrid? tie (x - n)).map fun c => (Digits.decimal c, x - n)
  match found with
  | none => ⟨['0'], 0⟩
  | some (digits, k) =>
      ⟨(digits.reverse.dropWhile (· == '0')).reverse, k + digits.length - 1⟩

/-! ### Layouts -/

/-- The decisions of one decimal notation. -/
structure Layout where
  /-- The least exponent that is written positionally. -/
  least : Int
  /-- The least exponent above those that is written with an exponent again. -/
  bound : Int
  /-- Whether a positive exponent has a plus sign. -/
  plus : Bool
  tie : Tie

/-- Positional notation with at least one digit on either side of the point. -/
def positional (dec : Decimal) : List Char :=
  if dec.exponent < 0 then
    '0' :: '.' :: List.replicate (-dec.exponent - 1).toNat '0' ++ dec.digits
  else
    let places := dec.exponent.toNat + 1
    let whole := dec.digits.take places
    let fraction := dec.digits.drop places
    whole ++ List.replicate (places - whole.length) '0' ++ '.' ::
      if fraction.isEmpty then ['0'] else fraction

/-- Scientific notation; a single digit has no point. -/
def scientific (plus : Bool) (dec : Decimal) : List Char :=
  let fraction := dec.digits.drop 1
  dec.digits.take 1 ++ (if fraction.isEmpty then [] else '.' :: fraction) ++ 'e' ::
    ((if plus && 0 ≤ dec.exponent then ['+'] else []) ++ Digits.signed dec.exponent)

/-- A finite double in a layout. -/
def layOut (layout : Layout) (d : Double) : List Char :=
  let sign := if d.negative then ['-'] else []
  if d.rank = 0 then sign ++ ['0', '.', '0']
  else
    let dec := d.shortest layout.tie
    if layout.least ≤ dec.exponent && dec.exponent < layout.bound then sign ++ positional dec
    else sign ++ scientific layout.plus dec

end DocQuery.Double
