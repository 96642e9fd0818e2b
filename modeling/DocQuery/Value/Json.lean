import DocQuery.Json.Reader
import DocQuery.Json.Unique
import DocQuery.Value.Basic

/-! # Values and documents as JSON

Writing gives relaxed extended JSON.  Reading takes plain JSON: an object is a document with
its pairs in written order, repeats included, and the `$` names of extended JSON have no
meaning.  Integers become 64-bit integers where they fit and doubles otherwise.  A tree with
an unusable part has no value. -/
namespace DocQuery

/-! ### Writing -/

mutual
def Native.toJson : Native → Json
  | .scalar s => s.toJson
  | .array items => .arr (nativesToJson items)
  | .document pairs => .obj (nativePairsToJson pairs)
  | .scopedCode code scope =>
      .obj [("$code", .str code), ("$scope", .obj (nativePairsToJson scope))]

def nativesToJson : List Native → List Json
  | [] => []
  | n :: ns => n.toJson :: nativesToJson ns

def nativePairsToJson : List (String × Native) → List (String × Json)
  | [] => []
  | (k, n) :: ps => (k, n.toJson) :: nativePairsToJson ps
end

mutual
/-- The tree of a value. -/
def Value.toJson : Value → Json
  | .native n => n.toJson
  | .array items => .arr (valuesToJson items)
  | .document d => d.toJson

def valuesToJson : List Value → List Json
  | [] => []
  | v :: vs => v.toJson :: valuesToJson vs

/-- The tree of a document. -/
def Document.toJson : Document → Json
  | .empty => .obj []
  | .entries pairs => .obj (pairsToJson pairs)

def pairsToJson : List (String × Value) → List (String × Json)
  | [] => []
  | (k, v) :: ps => (k, v.toJson) :: pairsToJson ps
end

/-- The text of a value. -/
def Value.text (v : Value) : String := v.toJson.text

/-- The text of a document. -/
def Document.text (d : Document) : String := d.toJson.text

/-! ### Reading -/

/-- The scalar of an integer. -/
def Scalar.ofInt (n : Int) : Scalar :=
  if Int64.minValue.toInt ≤ n ∧ n ≤ Int64.maxValue.toInt then .int64 (Int64.ofInt n)
  else .double (.ofInt n)

mutual
/-- The value of a tree that is usable. -/
def Value.ofJson? : Json → Option Value
  | .null => some .null
  | .bool b => some (.bool b)
  | .int n => some (.scalar (.ofInt n))
  | .double d => some (.scalar (.double d))
  | .str s => some (.string s)
  | .arr items => (valuesOfJson? items).map .array
  | .obj pairs => (pairsOfJson? pairs).map fun ps => .document (.ofPairs ps)
  | .unusable => none

def valuesOfJson? : List Json → Option (List Value)
  | [] => some []
  | j :: js => do
      let v ← Value.ofJson? j
      let vs ← valuesOfJson? js
      some (v :: vs)

def pairsOfJson? : List (String × Json) → Option (List (String × Value))
  | [] => some []
  | (k, j) :: ps => do
      let v ← Value.ofJson? j
      let vs ← pairsOfJson? ps
      some ((k, v) :: vs)
end

/-- A text that holds one value. -/
def Value.parse? (s : String) : Option Value := (Json.parse? s).bind Value.ofJson?

mutual
/-- The value of a tree without repeated names. -/
def Value.ofUnique : Json.Unique → Value
  | .null => .null
  | .bool b => .bool b
  | .number n =>
      match n.int64? with
      | some i => .int i
      | none => .scalar (.double n.toDouble)
  | .str s => .string s
  | .arr items => .array (valuesOfUnique items)
  | .obj pairs => .document (.ofPairs (pairsOfUnique pairs))

def valuesOfUnique : List Json.Unique → List Value
  | [] => []
  | u :: us => Value.ofUnique u :: valuesOfUnique us

def pairsOfUnique : List (String × Json.Unique) → List (String × Value)
  | [] => []
  | (k, u) :: ps => (k, Value.ofUnique u) :: pairsOfUnique ps
end

/-- A text that holds one value, taken in whole first. -/
def Value.parseUnique? (s : String) : Option Value := do
  let j ← Json.parse? s
  let u ← j.unique?
  some (Value.ofUnique u)

/-- Why a text or a tree cannot be read as what is wanted. -/
inductive ReadError where
  /-- It is not well formed, or its shape is wrong. -/
  | malformed
  /-- A value of another type stands where a document should. -/
  | notDocument (found : String)
  deriving DecidableEq

/-- What an error says, unless it only says that something is wrong. -/
def ReadError.message? : ReadError → Option String
  | .malformed => none
  | .notDocument found => some ("expected a document, found " ++ found)

/-- The document of a value that is one. -/
def Document.ofValue : Value → Except ReadError Document
  | .document d => .ok d
  | v => .error (.notDocument v.typeName)

/-- The document of a tree. -/
def Document.ofJson (j : Json) : Except ReadError Document :=
  match Value.ofJson? j with
  | none => .error .malformed
  | some v => Document.ofValue v

/-- A text that holds one document.  The type of the value is judged before what follows
it. -/
def Document.parse (s : String) : Except ReadError Document :=
  match Json.readFront s.toList with
  | none => .error .malformed
  | some (j, rest) =>
      match Document.ofJson j with
      | .error e => .error e
      | .ok d => if Json.atEnd rest then .ok d else .error .malformed

end DocQuery
