import DocQuery.Value.Basic

/-! # Casts

A cast turns a scalar into another type of the store, where plain JSON has no way to write a
value of that type.  Casts reach through arrays and stop at documents and at sealed native
values; a value that already has the type is left alone. -/
namespace DocQuery

/-- The types that a value can be cast to. -/
inductive Cast where
  | objectId
  | uuid
  | binary
  | dateTime
  | float
  deriving DecidableEq

namespace Cast

/-- The name of a cast in messages. -/
def label : Cast → String
  | .objectId => "object_id"
  | .uuid => "uuid"
  | .binary => "binary"
  | .dateTime => "datetime"
  | .float => "float"

/-! ### Universally unique identifiers -/

/-- The binary subtype of universally unique identifiers. -/
def uuidSubtype : UInt8 := 4

/-- Takes five groups of 8, 4, 4, 4 and 12 digits out of their hyphens. -/
def joinGroups? (cs : List Char) : Option (List Char) :=
  if cs.length = 36 ∧ cs[8]? = some '-' ∧ cs[13]? = some '-' ∧ cs[18]? = some '-' ∧
      cs[23]? = some '-' then
    some (cs.take 8 ++ (cs.drop 9).take 4 ++ (cs.drop 14).take 4 ++ (cs.drop 19).take 4 ++
      cs.drop 24)
  else none

/-- Takes grouped digits out of braces, or from behind their name prefix. -/
def unwrapGroups (cs : List Char) : List Char :=
  if cs.head? = some '{' ∧ cs.getLast? = some '}' then cs.tail.dropLast
  else if (cs.take 9).map Char.toLower = "urn:uuid:".toList then cs.drop 9
  else cs

/-- The sixteen bytes of an identifier: 32 digits in a row, or in groups that may be
wrapped. -/
def uuidBytes? (cs : List Char) : Option (List UInt8) :=
  if cs.length = 32 then Hex.decode? cs
  else (joinGroups? (unwrapGroups cs)).bind Hex.decode?

example : uuidBytes? r"{67e55044-10b1-426f-9247-bb680e5fe0c8}".toList =
    uuidBytes? "67E5504410B1426F9247BB680E5FE0C8".toList := by decide +kernel

/-! ### Casting -/

/-- The bytes of a string. -/
def utf8 (s : String) : List UInt8 := s.toUTF8.toList

/-- Casts a scalar, if the cast fits it. -/
def scalar? : Cast → Scalar → Option Scalar
  | .objectId, .string s => (ObjectId.ofHex? s.toList).map .objectId
  | .objectId, .objectId id => some (.objectId id)
  | .uuid, .string s => (uuidBytes? s.toList).map (.binary uuidSubtype)
  | .uuid, .binary subtype bytes =>
      if subtype = uuidSubtype then some (.binary subtype bytes) else none
  | .binary, .string s => some (.binary 0 (utf8 s))
  | .binary, .binary subtype bytes => some (.binary subtype bytes)
  | .dateTime, .string s =>
      (Calendar.readRfc3339? s.toList).map fun millis => .date (Int64.ofInt millis)
  | .dateTime, .int64 n => some (.date n)
  | .dateTime, .date millis => some (.date millis)
  | .float, .int64 n => some (.double (.ofInt n.toInt))
  | .float, .int32 n => some (.double (.ofInt n.toInt))
  | .float, .double d => some (.double d)
  | _, _ => none

mutual
/-- Casts a value, if the cast fits all of it. -/
def value? (cast : Cast) : Value → Option Value
  | .native (.scalar s) => (cast.scalar? s).map .scalar
  | .native _ => none
  | .array items => (values? cast items).map .array
  | .document _ => none

def values? (cast : Cast) : List Value → Option (List Value)
  | [] => some []
  | v :: vs => do
      let v ← value? cast v
      let vs ← values? cast vs
      some (v :: vs)
end

end Cast
end DocQuery
