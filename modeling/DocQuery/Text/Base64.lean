/-! # Base 64

The standard alphabet, padded with `=` to a multiple of four characters. -/
namespace DocQuery.Base64

/-- The standard alphabet in the order of the six-bit values. -/
def alphabet : List Char :=
  "ABCDEFGHIJKLMNOPQRSTUVWXYZabcdefghijklmnopqrstuvwxyz0123456789+/".toList

/-- The character of a six-bit value. -/
def digit (n : Nat) : Char := alphabet.getD n '='

/-- Three bytes become four characters; a rest of one or two bytes is padded. -/
def encode : List UInt8 → List Char
  | a :: b :: c :: rest =>
      let n := (a.toNat * 256 + b.toNat) * 256 + c.toNat
      digit (n / 262144) :: digit (n / 4096 % 64) :: digit (n / 64 % 64) :: digit (n % 64) ::
        encode rest
  | [a, b] =>
      let n := (a.toNat * 256 + b.toNat) * 4
      [digit (n / 4096), digit (n / 64 % 64), digit (n % 64), '=']
  | [a] =>
      let n := a.toNat * 16
      [digit (n / 64), digit (n % 64), '=', '=']
  | [] => []

example : encode [104, 101, 108, 108, 111] = "aGVsbG8=".toList := by decide +kernel
example : encode [62, 62, 62, 63, 63, 63] = "Pj4+Pz8/".toList := by decide +kernel

end DocQuery.Base64
