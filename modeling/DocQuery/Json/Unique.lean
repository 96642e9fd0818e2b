import DocQuery.Json.Basic

/-! # JSON trees without repeated names

A JSON text can also be taken in whole, before anything is made of it.  Objects are maps then: a
name has one value, the last one written, at the place where the name was written first.  Numbers
are sorted into those without sign, the negative ones and doubles, so that no integer loses
digits.  A text that has no value somewhere is not taken in. -/
namespace DocQuery.Json

/-- A number of a tree without repeated names. -/
inductive Number where
  | natural (n : UInt64)
  | negative (n : Int64)
  | double (d : Double)

namespace Number

/-- The number of an integer from `-2 ^ 63` to `2 ^ 64 - 1`. -/
def ofInt (n : Int) : Number :=
  if 0 ≤ n then .natural (UInt64.ofNat n.toNat) else .negative (Int64.ofInt n)

/-- The number as an integer with sign, if it is one and not too large. -/
def int64? : Number → Option Int64
  | .natural n => if n ≤ Int64.maxValue.toUInt64 then some n.toInt64 else none
  | .negative n => some n
  | .double _ => none

/-- The nearest double. -/
def toDouble : Number → Double
  | .natural n => .ofInt n.toNat
  | .negative n => .ofInt n.toInt
  | .double d => d

end Number

/-- A JSON value in which no object repeats a name. -/
inductive Unique where
  | null
  | bool (b : Bool)
  | number (n : Number)
  | str (s : String)
  | arr (items : List Unique)
  | obj (pairs : List (String × Unique))
  deriving Inhabited

/-- Puts a pair into a map: a name that is there already keeps its place and takes the new
value. -/
def putPair {α : Type} (pairs : List (String × α)) (k : String) (a : α) : List (String × α) :=
  match pairs with
  | [] => [(k, a)]
  | (k', a') :: ps => if k' = k then (k, a) :: ps else (k', a') :: putPair ps k a

mutual
/-- Takes a tree in whole. -/
def unique? : Json → Option Unique
  | .null => some .null
  | .bool b => some (.bool b)
  | .int n => some (.number (.ofInt n))
  | .double d => some (.number (.double d))
  | .str s => some (.str s)
  | .arr items => (uniqueItems? items).map .arr
  | .obj pairs => (uniquePairs? [] pairs).map .obj
  | .unusable => none

def uniqueItems? : List Json → Option (List Unique)
  | [] => some []
  | j :: js => do
      let u ← j.unique?
      let us ← uniqueItems? js
      some (u :: us)

/-- Puts pairs into `seen` one after another. -/
def uniquePairs? (seen : List (String × Unique)) :
    List (String × Json) → Option (List (String × Unique))
  | [] => some seen
  | (k, j) :: ps => do
      let u ← j.unique?
      uniquePairs? (putPair seen k u) ps
end

end DocQuery.Json
