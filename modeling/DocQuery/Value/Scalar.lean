import DocQuery.Calendar.Text
import DocQuery.Json.Basic
import DocQuery.Text.Base64
import DocQuery.Text.Hex
import DocQuery.Text.Quoted
import DocQuery.Value.Decimal

/-! # Scalars

The indivisible values of a document store, with the two texts they have: the tree of
relaxed extended JSON (`Scalar.toJson`), in which plain JSON has no word for most of them
and they appear as objects with one `$` name, and the text of diagnostics
(`Scalar.describe`). -/
namespace DocQuery

/-- A twelve-byte object identifier. -/
structure ObjectId where
  bytes : List UInt8
  length_eq : bytes.length = 12
  deriving DecidableEq

namespace ObjectId

/-- The identifier that 24 hexadecimal digits spell. -/
def ofHex? (cs : List Char) : Option ObjectId :=
  match Hex.decode? cs with
  | none => none
  | some bytes => if h : bytes.length = 12 then some ⟨bytes, h⟩ else none

def hex (id : ObjectId) : List Char := Hex.encode id.bytes

theorem ofHex?_hex (id : ObjectId) : ofHex? id.hex = some id := by
  simp [ofHex?, hex, Hex.decode?_encode, id.length_eq]

end ObjectId

/-- A scalar of the store. -/
inductive Scalar where
  | null
  | bool (b : Bool)
  | int32 (n : Int32)
  | int64 (n : Int64)
  | double (d : Double)
  | string (s : String)
  | objectId (id : ObjectId)
  | binary (subtype : UInt8) (bytes : List UInt8)
  /-- A moment in milliseconds from the start of 1970. -/
  | date (millis : Int64)
  /-- Script code that the store runs. -/
  | code (s : String)
  | symbol (s : String)
  | regex (pattern options : String)
  | timestamp (time increment : UInt32)
  | decimal (d : Decimal128)
  /-- A record of another collection. -/
  | dbPointer (coll : String) (id : ObjectId)
  | minKey
  | maxKey
  | undefined
  deriving DecidableEq

namespace Scalar

/-- Equality of scalars, with the doubles compared as numbers. -/
def same : Scalar → Scalar → Bool
  | .double a, .double b => a.same b
  | a, b => a == b

/-- The integer of a scalar that is one. -/
def int? : Scalar → Option Int64
  | .int64 n => some n
  | .int32 n => some n.toInt64
  | _ => none

/-- The name of a scalar's type. -/
def typeName : Scalar → String
  | .null => "null"
  | .bool _ => "bool"
  | .int32 _ | .int64 _ => "int"
  | .double _ => "float"
  | .string _ => "string"
  | .objectId _ => "objectId"
  | .binary .. => "binary"
  | .date _ => "date"
  | .code _ => "code"
  | .symbol _ | .regex .. | .timestamp .. | .decimal _ | .dbPointer .. | .minKey | .maxKey
  | .undefined => "bson"

/-! ### Extended JSON -/

/-- A double is a number if it is finite and has a name otherwise. -/
def doubleJson (d : Double) : Json :=
  if d.isFinite then .double d
  else
    let name := if d.isNaN then "NaN" else if d.negative then "-Infinity" else "Infinity"
    .obj [("$numberDouble", .str name)]

/-- A moment is readable from 1970 to the year 9999 and a count of milliseconds otherwise. -/
def dateJson (millis : Int64) : Json :=
  let moment := Calendar.Moment.ofMillis millis.toInt
  if 0 ≤ millis.toInt ∧ moment.date.year ≤ 9999 then
    .obj [("$date", .str (String.ofList moment.rfc3339))]
  else
    let count := String.ofList (Digits.signed millis.toInt)
    .obj [("$date", .obj [("$numberLong", .str count)])]

/-- The options of a regular expression in alphabetical order. -/
def sortedOptions (options : String) : String :=
  String.ofList (options.toList.mergeSort fun a b => a.toNat ≤ b.toNat)

/-- The tree of a scalar in relaxed extended JSON. -/
def toJson : Scalar → Json
  | .null => .null
  | .bool b => .bool b
  | .int32 n => .int n.toInt
  | .int64 n => .int n.toInt
  | .double d => doubleJson d
  | .string s => .str s
  | .objectId id => .obj [("$oid", .str (String.ofList id.hex))]
  | .binary subtype bytes =>
      .obj [("$binary", .obj [("base64", .str (String.ofList (Base64.encode bytes))),
        ("subType", .str (String.ofList (Hex.byte subtype)))])]
  | .date millis => dateJson millis
  | .code s => .obj [("$code", .str s)]
  | .symbol s => .obj [("$symbol", .str s)]
  | .regex pattern options =>
      .obj [("$regularExpression",
        .obj [("pattern", .str pattern), ("options", .str (sortedOptions options))])]
  | .timestamp time increment =>
      .obj [("$timestamp", .obj [("t", .int time.toNat), ("i", .int increment.toNat)])]
  | .decimal d => .obj [("$numberDecimal", .str d.text)]
  | .dbPointer coll id =>
      .obj [("$dbPointer",
        .obj [("$ref", .str coll), ("$id", .obj [("$oid", .str (String.ofList id.hex))])])]
  | .minKey => .obj [("$minKey", .int 1)]
  | .maxKey => .obj [("$maxKey", .int 1)]
  | .undefined => .obj [("$undefined", .bool true)]

/-! ### Diagnostics -/

/-- Doubles are positional from `0.0001` to below `1e16`. -/
def doubleLayout : Double.Layout := ⟨-4, 16, false, .up⟩

def describeDouble (d : Double) : String :=
  if d.isNaN then "NaN"
  else if d.isFinite then String.ofList (d.layOut doubleLayout)
  else if d.negative then "-inf" else "inf"

/-- The names of the binary subtypes. -/
def describeSubtype (n : UInt8) : String :=
  match n.toNat with
  | 0 => "Generic"
  | 1 => "Function"
  | 2 => "BinaryOld"
  | 3 => "UuidOld"
  | 4 => "Uuid"
  | 5 => "Md5"
  | 6 => "Encrypted"
  | 7 => "Column"
  | 8 => "Sensitive"
  | 9 => "Vector"
  | n => (if 128 ≤ n then "UserDefined(" else "Reserved(") ++ n.repr ++ ")"

/-- Moments within a million years of year 0 are shown as dates, others as a count of
milliseconds. -/
def describeDate (millis : Int64) : String :=
  let moment := Calendar.Moment.ofMillis millis.toInt
  if moment.date.year.natAbs < 1000000 then String.ofList moment.describe
  else String.ofList (Digits.signed millis.toInt)

def describeId (id : ObjectId) : String := "ObjectId(\"" ++ String.ofList id.hex ++ "\")"

/-- The text of a scalar in diagnostics. -/
def describe : Scalar → String
  | .null => "Null"
  | .bool b => "Boolean(" ++ (if b then "true" else "false") ++ ")"
  | .int32 n => "Int32(" ++ String.ofList (Digits.signed n.toInt) ++ ")"
  | .int64 n => "Int64(" ++ String.ofList (Digits.signed n.toInt) ++ ")"
  | .double d => "Double(" ++ describeDouble d ++ ")"
  | .string s => "String(" ++ Quoted.quote s ++ ")"
  | .objectId id => describeId id
  | .binary subtype bytes =>
      r"Binary { subtype: " ++ describeSubtype subtype ++ ", bytes: [" ++
        ", ".intercalate (bytes.map fun b => b.toNat.repr) ++ r"] }"
  | .date millis => "DateTime(" ++ describeDate millis ++ ")"
  | .code s => "JavaScriptCode(" ++ Quoted.quote s ++ ")"
  | .symbol s => "Symbol(" ++ Quoted.quote s ++ ")"
  | .regex pattern options =>
      r"Regex { pattern: " ++ Quoted.quote pattern ++ ", options: " ++ Quoted.quote options ++ r" }"
  | .timestamp time increment =>
      r"Timestamp { time: " ++ time.toNat.repr ++ ", increment: " ++ increment.toNat.repr ++ r" }"
  | .decimal _ => "Decimal128(...)"
  | .dbPointer coll id =>
      r"DbPointer { namespace: " ++ Quoted.quote coll ++ ", id: " ++ describeId id ++ r" }"
  | .minKey => "MinKey"
  | .maxKey => "MaxKey"
  | .undefined => "Undefined"

end Scalar
end DocQuery
