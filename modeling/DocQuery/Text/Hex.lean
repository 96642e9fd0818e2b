/-! # Hexadecimal text

Bytes are written as two lowercase digits each and read in either case. -/
namespace DocQuery.Hex

/-- The value of a hexadecimal digit of either case. -/
def digit? (c : Char) : Option Nat :=
  if '0' ≤ c ∧ c ≤ '9' then some (c.toNat - '0'.toNat)
  else if 'a' ≤ c ∧ c ≤ 'f' then some (c.toNat - 'a'.toNat + 10)
  else if 'A' ≤ c ∧ c ≤ 'F' then some (c.toNat - 'A'.toNat + 10)
  else none

/-- A byte as two lowercase digits. -/
def byte (b : UInt8) : List Char :=
  [Nat.digitChar (b.toNat / 16), Nat.digitChar (b.toNat % 16)]

/-- Bytes in order, two digits each. -/
def encode (bytes : List UInt8) : List Char := bytes.flatMap byte

/-- The bytes that pairs of digits spell; an odd digit or another character is
refused. -/
def decode? : List Char → Option (List UInt8)
  | [] => some []
  | [_] => none
  | a :: b :: rest => do
      let high ← digit? a
      let low ← digit? b
      let bytes ← decode? rest
      some (UInt8.ofNat (16 * high + low) :: bytes)

/-- The number that four digits spell. -/
def four? (a b c d : Char) : Option Nat := do
  let a ← digit? a
  let b ← digit? b
  let c ← digit? c
  let d ← digit? d
  some (((a * 16 + b) * 16 + c) * 16 + d)

theorem digit?_digitChar : ∀ d < 16, digit? (Nat.digitChar d) = some d := by decide

theorem decode?_encode (bytes : List UInt8) : decode? (encode bytes) = some bytes := by
  induction bytes with
  | nil => rfl
  | cons b bytes ih =>
    have hb : b.toNat < 256 := b.toNat_lt
    have h : 16 * (b.toNat / 16) + b.toNat % 16 = b.toNat := by omega
    simp only [encode, List.flatMap_cons, byte, List.cons_append, List.nil_append, decode?]
    rw [digit?_digitChar _ (by omega), digit?_digitChar _ (by omega)]
    simp only [encode] at ih
    simp only [ih, Option.bind_eq_bind, Option.bind_some, h, UInt8.ofNat_toNat]

example : decode? ['0', 'f', 'A', '0'] = some [15, 160] := by decide
example : decode? ['0', 'g'] = none := by decide

end DocQuery.Hex
