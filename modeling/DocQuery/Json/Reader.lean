import DocQuery.Json.Basic
import DocQuery.Text.Hex

/-! # Reading JSON

A strict reader over `List Char`.  Every function takes what it reads off the front
of the text and returns the rest; `none` means that the front is not well formed.

* Blanks are spaces, tabs, line feeds and carriage returns, between tokens only.
* Numbers have no leading zeros, and digits on both sides of a point.  An integer
  from `-2 ^ 63` to `2 ^ 64 - 1` is an `int`; other numbers are doubles.  `-0` is a
  double, since integers have no such zero.  A double is read from as many digits as fit into
  64 bits (`ofDecimal`).
* Strings hold no raw control characters.

Three things are well formed and have no value, so they are read as `unusable`:

* a number that comes out too large for a double;
* a string with an escaped surrogate that is not one half of a pair, and an object with
  such a name;
* an array or object inside `nestingLimit` others. -/
namespace DocQuery.Json

/-- How many arrays and objects may be open at once. -/
def nestingLimit : Nat := 127

/-- Blanks between tokens. -/
def isSpace (c : Char) : Bool := c = ' ' || c = '\t' || c = '\n' || c = '\r'

/-- The text after its leading blanks. -/
def skip (cs : List Char) : List Char := cs.dropWhile isSpace

/-! ### Strings -/

/-- The character that a backslash and a letter stand for. -/
def shortEscape? : Char → Option Char
  | '"' => some '"'
  | '\\' => some '\\'
  | '/' => some '/'
  | 'b' => some '\x08'
  | 'f' => some '\x0c'
  | 'n' => some '\n'
  | 'r' => some '\r'
  | 't' => some '\t'
  | _ => none

/-- The code point of two surrogates. -/
def surrogatePair? (high low : Nat) : Option Char :=
  if 0xD800 ≤ high ∧ high < 0xDC00 ∧ 0xDC00 ≤ low ∧ low < 0xE000 then
    some (Char.ofNat (0x10000 + (high - 0xD800) * 0x400 + (low - 0xDC00)))
  else none

/-- A part of a string: a character, or a surrogate that was escaped. -/
inductive Piece where
  | char (c : Char)
  | half (n : Nat)

/-- The piece of an escaped code. -/
def Piece.ofCode (n : Nat) : Piece :=
  if n < 0xD800 ∨ 0xE000 ≤ n then .char (Char.ofNat n) else .half n

/-- The characters of pieces, each surrogate joined with the next; one that stands alone has
none. -/
def join? : List Piece → Option (List Char)
  | [] => some []
  | .char c :: ps => (join? ps).map (c :: ·)
  | .half high :: .half low :: ps =>
      match surrogatePair? high low with
      | none => none
      | some c => (join? ps).map (c :: ·)
  | .half _ :: _ => none

/-- The inside of a string up to its closing quote. -/
def readPieces : List Char → Option (List Piece × List Char)
  | [] => none
  | '"' :: rest => some ([], rest)
  | '\\' :: 'u' :: a :: b :: c :: d :: rest =>
      match Hex.four? a b c d with
      | none => none
      | some n => (readPieces rest).map fun (ps, rest) => (.ofCode n :: ps, rest)
  | '\\' :: e :: rest =>
      match shortEscape? e with
      | none => none
      | some c => (readPieces rest).map fun (ps, rest) => (.char c :: ps, rest)
  | c :: rest =>
      if c.toNat < 0x20 then none
      else (readPieces rest).map fun (ps, rest) => (.char c :: ps, rest)

/-- A string after its opening quote; the text is `none` if a surrogate in it stands alone. -/
def readString (cs : List Char) : Option (Option String × List Char) :=
  (readPieces cs).map fun (ps, rest) => ((join? ps).map String.ofList, rest)

/-- The value of a string. -/
def ofString : Option String → Json
  | none => .unusable
  | some s => .str s

/-! ### Numbers -/

/-- The value of a number that is a double, if it is not too large. -/
def ofDouble : Option Double → Json
  | some d => .double d
  | none => .unusable

/-- Adds digits to a number as long as it stays below `2 ^ 64`, and gives the digits left over. -/
def takeDigits (n : Nat) : List Char → Nat × List Char
  | [] => (n, [])
  | c :: cs =>
      let next := 10 * n + (c.toNat - '0'.toNat)
      if next < UInt64.size then takeDigits next cs else (n, c :: cs)

/-- The largest exponent that is computed with. -/
def maxExponent : Nat := 2147483647

/-- The value of a number with digits before and after its point.  Of more digits than fit, those
before the point count as places, and those after it not at all. -/
def ofDecimal (negative : Bool) (whole fraction : List Char) (exponent : Int) : Json :=
  let (n, left) := takeDigits 0 whole
  let (n, dropped) := takeDigits n fraction
  let places : Int := left.length - (fraction.length - dropped.length : Nat)
  if maxExponent < exponent.natAbs then
    if n = 0 ∨ exponent < 0 then .double (.zero negative) else .unusable
  else ofDouble (Double.ofDecimal? negative n (places + exponent))

/-- The value of an integer literal. -/
def ofInteger (negative : Bool) (digits : List Char) : Json :=
  let n := Digits.number digits
  let i : Int := if negative then -n else n
  if negative ∧ n = 0 then .double (.zero true)
  else if Int64.minValue.toInt ≤ i ∧ i < UInt64.size then .int i
  else ofDecimal negative digits [] 0

/-- The digits after a point, if there is one. -/
def readFraction : List Char → Option (Option (List Char) × List Char)
  | '.' :: cs =>
      let (digits, rest) := Digits.span cs
      if digits.isEmpty then none else some (some digits, rest)
  | cs => some (none, cs)

/-- Whether there is a minus sign, and what follows it. -/
def readSign : List Char → Bool × List Char
  | '-' :: cs => (true, cs)
  | cs => (false, cs)

/-- Whether there is a minus sign, and what follows the sign, which may also be a plus. -/
def readEitherSign : List Char → Bool × List Char
  | '+' :: cs => (false, cs)
  | cs => readSign cs

/-- The exponent after its mark. -/
def readPower (cs : List Char) : Option (Int × List Char) :=
  let (negative, cs) := readEitherSign cs
  let (digits, rest) := Digits.span cs
  let n : Int := Digits.number digits
  if digits.isEmpty then none else some (if negative then -n else n, rest)

/-- The exponent, if there is one. -/
def readExponent : List Char → Option (Option Int × List Char)
  | 'e' :: cs | 'E' :: cs => (readPower cs).map fun (n, rest) => (some n, rest)
  | cs => some (none, cs)

/-- A number. -/
def readNumber (cs : List Char) : Option (Json × List Char) :=
  let (negative, cs) := readSign cs
  let (whole, rest) := Digits.span cs
  if whole.isEmpty ∨ (whole.head? = some '0' ∧ 1 < whole.length) then none
  else do
    let (fraction, rest) ← readFraction rest
    let (exponent, rest) ← readExponent rest
    let value := match fraction, exponent with
      | none, none => ofInteger negative whole
      | _, _ => ofDecimal negative whole (fraction.getD []) (exponent.getD 0)
    some (value, rest)

/-! ### Values -/

/-- A name and the colon after it; the name is `none` if it cannot be used. -/
def readName (cs : List Char) : Option (Option String × List Char) :=
  match skip cs with
  | '"' :: rest =>
      match readString rest with
      | none => none
      | some (name, rest) =>
          match skip rest with
          | ':' :: rest => some (name, rest)
          | _ => none
  | _ => none

/-- Puts a pair before the others of an object, if all their names can be used. -/
def consPair (k : Option String) (j : Json) (ps : Option (List (String × Json))) :
    Option (List (String × Json)) :=
  match k, ps with
  | some k, some ps => some ((k, j) :: ps)
  | _, _ => none

/-- The value of an array, if there was room to open it. -/
def ofItems (room : Nat) (items : List Json) : Json :=
  if room = 0 then .unusable else .arr items

/-- The value of an object, if there was room to open it and its names can be used. -/
def ofPairs (room : Nat) : Option (List (String × Json)) → Json
  | some pairs => if room = 0 then .unusable else .obj pairs
  | none => .unusable

mutual
/-- One value, with blanks before it.  `room` is how many more containers may be opened.
`fuel` bounds the recursion: every call has used up a character of its caller's text, so
the length of the text is enough. -/
def readValue : Nat → Nat → List Char → Option (Json × List Char)
  | 0, _, _ => none
  | fuel + 1, room, cs =>
      match skip cs with
      | 'n' :: 'u' :: 'l' :: 'l' :: rest => some (.null, rest)
      | 't' :: 'r' :: 'u' :: 'e' :: rest => some (.bool true, rest)
      | 'f' :: 'a' :: 'l' :: 's' :: 'e' :: rest => some (.bool false, rest)
      | '"' :: rest => (readString rest).map fun (s, rest) => (ofString s, rest)
      | '[' :: rest =>
          match skip rest with
          | ']' :: rest => some (ofItems room [], rest)
          | rest => do
              let (j, rest) ← readValue fuel (room - 1) rest
              let (js, rest) ← readItems fuel (room - 1) rest
              some (ofItems room (j :: js), rest)
      | '{' :: rest =>
          match skip rest with
          | '}' :: rest => some (ofPairs room (some []), rest)
          | rest => do
              let (k, rest) ← readName rest
              let (j, rest) ← readValue fuel (room - 1) rest
              let (ps, rest) ← readPairs fuel (room - 1) rest
              some (ofPairs room (consPair k j ps), rest)
      | cs => readNumber cs

/-- The rest of an array after an element. -/
def readItems : Nat → Nat → List Char → Option (List Json × List Char)
  | 0, _, _ => none
  | fuel + 1, room, cs =>
      match skip cs with
      | ']' :: rest => some ([], rest)
      | ',' :: rest => do
          let (j, rest) ← readValue fuel room rest
          let (js, rest) ← readItems fuel room rest
          some (j :: js, rest)
      | _ => none

/-- The rest of an object after a pair. -/
def readPairs : Nat → Nat → List Char → Option (Option (List (String × Json)) × List Char)
  | 0, _, _ => none
  | fuel + 1, room, cs =>
      match skip cs with
      | '}' :: rest => some (some [], rest)
      | ',' :: rest => do
          let (k, rest) ← readName rest
          let (j, rest) ← readValue fuel room rest
          let (ps, rest) ← readPairs fuel room rest
          some (consPair k j ps, rest)
      | _ => none
end

/-- The value at the front of a text, and what follows it. -/
def readFront (cs : List Char) : Option (Json × List Char) :=
  readValue (cs.length + 1) nestingLimit cs

/-- Whether nothing but blanks is left. -/
def atEnd (cs : List Char) : Bool := (skip cs).isEmpty

/-- A text that holds one value and nothing else.  Parts of it may be unusable. -/
def parse? (s : String) : Option Json := do
  let (j, rest) ← readFront s.toList
  if atEnd rest then some j else none

example : (parse? "[1, \"\\ud83d\\ude00\"]").map isUsable = some true := by decide +kernel
example : (parse? "[1, \"\\ude00\\ud83d\"]").map isUsable = some false := by decide +kernel
example : (parse? "[1, \"\\ude0\"]").isNone = true := by decide +kernel

end DocQuery.Json
