import DocQuery.Proofs.JsonRoundTrip
import DocQuery.Value.Json

/-! # What the text of a value says

The text of a value is JSON, and reading it takes no `$` name for what it stands for.  So reading
gives the *plain* form of the value, in which every scalar that JSON has no word for is a
document with one `$` name, integers have 64 bits and nothing is sealed.

Values are read back from trees first (`Value.ofJson?_toJson`), and from texts by way of exact
trees.  Finite doubles are left out of the second step, since a text gives their digits only. -/
namespace DocQuery

/-! ### The scalars of a value -/

mutual
def Native.scalars : Native → List Scalar
  | .scalar s => [s]
  | .array items => nativesScalars items
  | .document pairs => nativePairsScalars pairs
  | .scopedCode _ scope => nativePairsScalars scope

def nativesScalars : List Native → List Scalar
  | [] => []
  | n :: ns => n.scalars ++ nativesScalars ns

def nativePairsScalars : List (String × Native) → List Scalar
  | [] => []
  | (_, n) :: ps => n.scalars ++ nativePairsScalars ps
end

mutual
/-- The scalars of a value at any depth, sealed ones included. -/
def Value.scalars : Value → List Scalar
  | .native n => n.scalars
  | .array items => valuesScalars items
  | .document d => d.scalars

def valuesScalars : List Value → List Scalar
  | [] => []
  | v :: vs => v.scalars ++ valuesScalars vs

def Document.scalars : Document → List Scalar
  | .empty => []
  | .entries pairs => pairsScalars pairs

def pairsScalars : List (String × Value) → List Scalar
  | [] => []
  | (_, v) :: ps => v.scalars ++ pairsScalars ps
end

/-! ### Normal form -/

mutual
/-- Whether documents without pairs are `empty` at every depth. -/
def Value.isNormal : Value → Bool
  | .native _ => true
  | .array items => valuesNormal items
  | .document d => d.isNormal

def valuesNormal : List Value → Bool
  | [] => true
  | v :: vs => v.isNormal && valuesNormal vs

def Document.isNormal : Document → Bool
  | .empty => true
  | .entries pairs => !pairs.isEmpty && pairsNormal pairs

def pairsNormal : List (String × Value) → Bool
  | [] => true
  | (_, v) :: ps => v.isNormal && pairsNormal ps
end

/-! ### The plain form -/

/-- A document that says by its one name what its content stands for. -/
def Value.wrapped (name : String) (content : Value) : Value := .document (.single name content)

namespace Scalar

/-- The name of a double that is not finite. -/
def doubleName (d : Double) : String :=
  if d.isNaN then "NaN" else if d.negative then "-Infinity" else "Infinity"

def plainDate (millis : Int64) : Value :=
  let moment := Calendar.Moment.ofMillis millis.toInt
  if 0 ≤ millis.toInt ∧ moment.date.year ≤ 9999 then
    .wrapped "$date" (.string (String.ofList moment.rfc3339))
  else
    .wrapped "$date"
      (.wrapped "$numberLong" (.string (String.ofList (Digits.signed millis.toInt))))

/-- The plain form of a scalar. -/
def plain : Scalar → Value
  | .null => .null
  | .bool b => .bool b
  | .int32 n => .int n.toInt64
  | .int64 n => .int n
  | .double d =>
      if d.isFinite then .scalar (.double d) else .wrapped "$numberDouble" (.string (doubleName d))
  | .string s => .string s
  | .objectId id => .wrapped "$oid" (.string (String.ofList id.hex))
  | .binary subtype bytes =>
      .wrapped "$binary" (.document (.entries
        [("base64", .string (String.ofList (Base64.encode bytes))),
          ("subType", .string (String.ofList (Hex.byte subtype)))]))
  | .date millis => plainDate millis
  | .code s => .wrapped "$code" (.string s)
  | .symbol s => .wrapped "$symbol" (.string s)
  | .regex pattern options =>
      .wrapped "$regularExpression" (.document (.entries
        [("pattern", .string pattern), ("options", .string (sortedOptions options))]))
  | .timestamp time increment =>
      .wrapped "$timestamp" (.document (.entries
        [("t", .int (Int64.ofNat time.toNat)), ("i", .int (Int64.ofNat increment.toNat))]))
  | .decimal d => .wrapped "$numberDecimal" (.string d.text)
  | .dbPointer coll id =>
      .wrapped "$dbPointer" (.document (.entries
        [("$ref", .string coll), ("$id", .wrapped "$oid" (.string (String.ofList id.hex)))]))
  | .minKey => .wrapped "$minKey" (.int 1)
  | .maxKey => .wrapped "$maxKey" (.int 1)
  | .undefined => .wrapped "$undefined" (.bool true)

end Scalar

mutual
/-- The plain form of a native value, which is sealed no longer. -/
def Native.plain : Native → Value
  | .scalar s => s.plain
  | .array items => .array (plainNatives items)
  | .document pairs => .document (.ofPairs (plainNativePairs pairs))
  | .scopedCode code scope =>
      .document (.entries
        [("$code", .string code), ("$scope", .document (.ofPairs (plainNativePairs scope)))])

def plainNatives : List Native → List Value
  | [] => []
  | n :: ns => n.plain :: plainNatives ns

def plainNativePairs : List (String × Native) → List (String × Value)
  | [] => []
  | (k, n) :: ps => (k, n.plain) :: plainNativePairs ps
end

mutual
/-- The plain form of a value: order and repeated keys stay. -/
def Value.plain : Value → Value
  | .native n => n.plain
  | .array items => .array (plainValues items)
  | .document d => .document d.plain

def plainValues : List Value → List Value
  | [] => []
  | v :: vs => v.plain :: plainValues vs

def Document.plain : Document → Document
  | .empty => .empty
  | .entries pairs => .entries (plainPairs pairs)

def plainPairs : List (String × Value) → List (String × Value)
  | [] => []
  | (k, v) :: ps => (k, v.plain) :: plainPairs ps
end

/-! ### Values that are plain already -/

/-- Whether JSON has a word for a scalar. -/
def Scalar.isPlain : Scalar → Bool
  | .null | .bool _ | .int64 _ | .string _ => true
  | _ => false

mutual
/-- Whether no array and no document in a value is sealed. -/
def Value.isUnsealed : Value → Bool
  | .native (.scalar _) => true
  | .native _ => false
  | .array items => valuesUnsealed items
  | .document .empty => true
  | .document (.entries pairs) => pairsUnsealed pairs

def valuesUnsealed : List Value → Bool
  | [] => true
  | v :: vs => v.isUnsealed && valuesUnsealed vs

def pairsUnsealed : List (String × Value) → Bool
  | [] => true
  | (_, v) :: ps => v.isUnsealed && pairsUnsealed ps
end

/-- A value that is made of plain scalars, arrays and documents, and normal. -/
structure Value.IsPlain (v : Value) : Prop where
  scalars : ∀ s ∈ v.scalars, s.isPlain = true
  unsealed : v.isUnsealed = true
  normal : v.isNormal = true

instance (v : Value) : Decidable v.IsPlain :=
  decidable_of_iff ((∀ s ∈ v.scalars, s.isPlain = true) ∧ v.isUnsealed = true ∧ v.isNormal = true)
    ⟨fun ⟨hscalars, hunsealed, hnormal⟩ => ⟨hscalars, hunsealed, hnormal⟩,
      fun hv => ⟨hv.scalars, hv.unsealed, hv.normal⟩⟩

theorem Scalar.plain_of_isPlain {s : Scalar} (hs : s.isPlain = true) : s.plain = .scalar s := by
  cases s with
  | null | bool | int64 | string => rfl
  | _ => cases hs

mutual
theorem Value.plain_of_isUnsealed : ∀ v : Value, v.isUnsealed = true →
    (∀ s ∈ v.scalars, s.isPlain = true) → v.plain = v
  | .native (.scalar s), _, hs => s.plain_of_isPlain (hs s List.mem_cons_self)
  | .array items, hv, hs => by rw [Value.plain, plainValues_of_unsealed items hv hs]
  | .document .empty, _, _ => rfl
  | .document (.entries pairs), hv, hs => by
    rw [Value.plain, Document.plain, plainPairs_of_unsealed pairs hv hs]

theorem plainValues_of_unsealed : ∀ vs : List Value, valuesUnsealed vs = true →
    (∀ s ∈ valuesScalars vs, s.isPlain = true) → plainValues vs = vs
  | [], _, _ => rfl
  | v :: vs, hvs, hs => by
    obtain ⟨hv, hvs⟩ := Bool.and_eq_true_iff.mp hvs
    obtain ⟨hsv, hsvs⟩ := List.forall_mem_append.mp hs
    rw [plainValues, v.plain_of_isUnsealed hv hsv, plainValues_of_unsealed vs hvs hsvs]

theorem plainPairs_of_unsealed : ∀ ps : List (String × Value), pairsUnsealed ps = true →
    (∀ s ∈ pairsScalars ps, s.isPlain = true) → plainPairs ps = ps
  | [], _, _ => rfl
  | (k, v) :: ps, hps, hs => by
    obtain ⟨hv, hps⟩ := Bool.and_eq_true_iff.mp hps
    obtain ⟨hsv, hsps⟩ := List.forall_mem_append.mp hs
    rw [plainPairs, v.plain_of_isUnsealed hv hsv, plainPairs_of_unsealed ps hps hsps]
end

/-! ### Reading a value back from its tree -/

theorem Scalar.ofInt_eq_int64 {n : Int} (hn : -2 ^ 63 ≤ n ∧ n < 2 ^ 63) :
    Scalar.ofInt n = .int64 (Int64.ofInt n) := by
  have hrange : Int64.minValue.toInt ≤ n ∧ n ≤ Int64.maxValue.toInt := by
    rw [Int64.toInt_minValue, Int64.toInt_maxValue]
    omega
  exact if_pos hrange

theorem Scalar.ofInt_toNat (n : UInt32) :
    Scalar.ofInt (n.toNat : Int) = .int64 (Int64.ofNat n.toNat) := by
  have hbound := n.toNat_lt
  rw [ofInt_eq_int64 (by omega), Int64.ofInt_eq_ofNat]

theorem Scalar.ofJson?_toJson (s : Scalar) : Value.ofJson? s.toJson = some s.plain := by
  cases s with
  | int32 n =>
    have hbounds := And.intro n.le_toInt n.toInt_lt
    rw [toJson, Value.ofJson?, ofInt_eq_int64 (by omega), Int64.ofInt_int32ToInt]
    rfl
  | int64 n =>
    rw [toJson, Value.ofJson?, ofInt_eq_int64 ⟨n.le_toInt, n.toInt_lt⟩, Int64.ofInt_toInt]
    rfl
  | double d =>
    simp only [toJson, doubleJson, plain]
    split <;> rfl
  | date millis =>
    simp only [toJson, dateJson, plain, plainDate]
    split <;> rfl
  | timestamp time increment =>
    -- both counters are integers in the tree, which says nothing of their width
    change some (Value.wrapped "$timestamp" (.document (.entries
      [("t", .scalar (.ofInt time.toNat)), ("i", .scalar (.ofInt increment.toNat))]))) = _
    rw [ofInt_toNat, ofInt_toNat]
    rfl
  | _ => rfl

mutual
theorem Native.ofJson?_toJson : ∀ n : Native, Value.ofJson? n.toJson = some n.plain
  | .scalar s => s.ofJson?_toJson
  | .array items => by
    rw [Native.toJson, Value.ofJson?, valuesOfJson?_nativesToJson items]
    rfl
  | .document pairs => by
    rw [Native.toJson, Value.ofJson?, pairsOfJson?_nativePairsToJson pairs]
    rfl
  | .scopedCode code scope => by
    have hscope := pairsOfJson?_nativePairsToJson scope
    simp only [Native.toJson, Value.ofJson?, pairsOfJson?, hscope]
    rfl

theorem valuesOfJson?_nativesToJson :
    ∀ ns : List Native, valuesOfJson? (nativesToJson ns) = some (plainNatives ns)
  | [] => rfl
  | n :: ns => by
    rw [nativesToJson, valuesOfJson?, n.ofJson?_toJson, valuesOfJson?_nativesToJson ns]
    rfl

theorem pairsOfJson?_nativePairsToJson : ∀ ps : List (String × Native),
    pairsOfJson? (nativePairsToJson ps) = some (plainNativePairs ps)
  | [] => rfl
  | (k, n) :: ps => by
    rw [nativePairsToJson, pairsOfJson?, n.ofJson?_toJson, pairsOfJson?_nativePairsToJson ps]
    rfl
end

mutual
/-- The tree of a normal value is read as the plain form of the value. -/
theorem Value.ofJson?_toJson :
    ∀ v : Value, v.isNormal = true → Value.ofJson? v.toJson = some v.plain
  | .native n, _ => n.ofJson?_toJson
  | .array items, hnormal => by
    rw [Value.toJson, Value.ofJson?, valuesOfJson?_valuesToJson items hnormal]
    rfl
  | .document .empty, _ => rfl
  -- written like `empty` and read as `empty`, which is why it is left out
  | .document (.entries []), hnormal => absurd hnormal (by decide)
  | .document (.entries ((k, v) :: ps)), hnormal => by
    have hpairs := pairsOfJson?_pairsToJson ((k, v) :: ps) hnormal
    rw [Value.toJson, Document.toJson, Value.ofJson?, hpairs]
    rfl

theorem valuesOfJson?_valuesToJson : ∀ vs : List Value,
    valuesNormal vs = true → valuesOfJson? (valuesToJson vs) = some (plainValues vs)
  | [], _ => rfl
  | v :: vs, hnormal => by
    obtain ⟨hv, hvs⟩ := Bool.and_eq_true_iff.mp hnormal
    rw [valuesToJson, valuesOfJson?, v.ofJson?_toJson hv, valuesOfJson?_valuesToJson vs hvs]
    rfl

theorem pairsOfJson?_pairsToJson : ∀ ps : List (String × Value),
    pairsNormal ps = true → pairsOfJson? (pairsToJson ps) = some (plainPairs ps)
  | [], _ => rfl
  | (k, v) :: ps, hnormal => by
    obtain ⟨hv, hps⟩ := Bool.and_eq_true_iff.mp hnormal
    rw [pairsToJson, pairsOfJson?, v.ofJson?_toJson hv, pairsOfJson?_pairsToJson ps hps]
    rfl
end

/-! ### Values with exact trees -/

/-- Whether a scalar is a double with digits to write. -/
def Scalar.isFiniteDouble : Scalar → Bool
  | .double d => d.isFinite
  | _ => false

theorem Scalar.isExact_toJson {s : Scalar} (hs : s.isFiniteDouble = false) :
    s.toJson.isExact = true := by
  cases s with
  | int32 n =>
    have hbounds := And.intro n.le_toInt n.toInt_lt
    exact decide_eq_true (by omega)
  | int64 n =>
    have hbounds := And.intro n.le_toInt n.toInt_lt
    exact decide_eq_true (by omega)
  | double d =>
    have hd : ¬ d.isFinite = true := by
      rw [Bool.not_eq_true]
      exact hs
    rw [toJson, doubleJson, if_neg hd]
    rfl
  | date millis =>
    rw [toJson, dateJson]
    dsimp only
    split <;> rfl
  | timestamp time increment =>
    have hint (n : UInt32) : (Json.int n.toNat).isExact = true := by
      have hbound := n.toNat_lt
      rw [Json.isExact, decide_eq_true_eq]
      omega
    simp [toJson, hint]
  | _ => rfl

mutual
theorem Native.isExact_toJson : ∀ n : Native,
    (∀ s ∈ n.scalars, s.isFiniteDouble = false) → n.toJson.isExact = true
  | .scalar s, hs => s.isExact_toJson (hs s List.mem_cons_self)
  | .array items, hs => itemsExact_nativesToJson items hs
  | .document pairs, hs => pairsExact_nativePairsToJson pairs hs
  | .scopedCode code scope, hs => by
    have hscope := pairsExact_nativePairsToJson scope hs
    simp [Native.toJson, Json.isExact, Json.pairsExact, hscope]

theorem itemsExact_nativesToJson : ∀ ns : List Native,
    (∀ s ∈ nativesScalars ns, s.isFiniteDouble = false) →
      Json.itemsExact (nativesToJson ns) = true
  | [], _ => rfl
  | n :: ns, hs => by
    obtain ⟨hn, hns⟩ := List.forall_mem_append.mp hs
    exact Bool.and_eq_true_iff.mpr ⟨n.isExact_toJson hn, itemsExact_nativesToJson ns hns⟩

theorem pairsExact_nativePairsToJson : ∀ ps : List (String × Native),
    (∀ s ∈ nativePairsScalars ps, s.isFiniteDouble = false) →
      Json.pairsExact (nativePairsToJson ps) = true
  | [], _ => rfl
  | (_, n) :: ps, hs => by
    obtain ⟨hn, hps⟩ := List.forall_mem_append.mp hs
    exact Bool.and_eq_true_iff.mpr ⟨n.isExact_toJson hn, pairsExact_nativePairsToJson ps hps⟩
end

mutual
/-- The tree of a value without finite doubles is read back from its text as it is. -/
theorem Value.isExact_toJson : ∀ v : Value,
    (∀ s ∈ v.scalars, s.isFiniteDouble = false) → v.toJson.isExact = true
  | .native n, hs => n.isExact_toJson hs
  | .array items, hs => itemsExact_valuesToJson items hs
  | .document .empty, _ => rfl
  | .document (.entries pairs), hs => pairsExact_pairsToJson pairs hs

theorem itemsExact_valuesToJson : ∀ vs : List Value,
    (∀ s ∈ valuesScalars vs, s.isFiniteDouble = false) →
      Json.itemsExact (valuesToJson vs) = true
  | [], _ => rfl
  | v :: vs, hs => by
    obtain ⟨hv, hvs⟩ := List.forall_mem_append.mp hs
    exact Bool.and_eq_true_iff.mpr ⟨v.isExact_toJson hv, itemsExact_valuesToJson vs hvs⟩

theorem pairsExact_pairsToJson : ∀ ps : List (String × Value),
    (∀ s ∈ pairsScalars ps, s.isFiniteDouble = false) →
      Json.pairsExact (pairsToJson ps) = true
  | [], _ => rfl
  | (_, v) :: ps, hs => by
    obtain ⟨hv, hps⟩ := List.forall_mem_append.mp hs
    exact Bool.and_eq_true_iff.mpr ⟨v.isExact_toJson hv, pairsExact_pairsToJson ps hps⟩
end

theorem Value.IsPlain.ofJson?_toJson {v : Value} (hv : v.IsPlain) :
    Value.ofJson? v.toJson = some v := by
  rw [v.ofJson?_toJson hv.normal, v.plain_of_isUnsealed hv.unsealed hv.scalars]

theorem Value.IsPlain.isExact_toJson {v : Value} (hv : v.IsPlain) : v.toJson.isExact = true := by
  apply v.isExact_toJson
  intro s hs
  have hplain := hv.scalars s hs
  cases s with
  | double => cases hplain
  | _ => rfl

/-- **The text of a value says its plain form.**  Finite doubles apart, and unless the text is
nested too deep, what is read is the plain form of the value, with every pair in its place. -/
theorem Value.parse?_text_eq_plain (v : Value)
    (hdoubles : ∀ s ∈ v.scalars, s.isFiniteDouble = false) (hnormal : v.isNormal = true)
    (hdepth : v.toJson.depth ≤ Json.nestingLimit) : Value.parse? v.text = some v.plain := by
  have htree : Json.parse? v.text = some v.toJson :=
    Json.parse?_text_of_isExact (v.isExact_toJson hdoubles) hdepth
  rw [Value.parse?, htree, Option.bind_some, v.ofJson?_toJson hnormal]

/-- A document with a repeated key, a sealed document and scalars that JSON has no word for. -/
def Value.assorted : Value :=
  .document (.entries
    [("k\n", .int (-9223372036854775808)),
      ("k\n", .array [.null, .scalar (.int32 (-7)), .document .empty, .string "\u0000\"é"]),
      ("sealed", .native (.document [("a", .array [.scalar .minKey]), ("b", .document [])])),
      ("", .scalar (.timestamp 4294967295 1)),
      ("b", .scalar (.binary 4 [255, 0])),
      ("d", .scalar (.double ⟨0x7FF0000000000000⟩))])

theorem Value.parse?_text_assorted :
    (∀ s ∈ assorted.scalars, s.isFiniteDouble = false) ∧ assorted.isNormal = true ∧
      assorted.toJson.depth ≤ Json.nestingLimit ∧
      Value.parse? assorted.text = some (.document (.entries
        [("k\n", .int (-9223372036854775808)),
          ("k\n", .array [.null, .int (-7), .document .empty, .string "\u0000\"é"]),
          ("sealed", .document (.entries [("a", .array [.wrapped "$minKey" (.int 1)]),
            ("b", .document .empty)])),
          ("", .wrapped "$timestamp" (.document (.entries
            [("t", .int 4294967295), ("i", .int 1)]))),
          ("b", .wrapped "$binary" (.document (.entries
            [("base64", .string "/wA="), ("subType", .string "04")]))),
          ("d", .wrapped "$numberDouble" (.string "Infinity"))])) := by
  have hdoubles : ∀ s ∈ assorted.scalars, s.isFiniteDouble = false := by decide
  have hnormal : assorted.isNormal = true := by decide
  have hdepth : assorted.toJson.depth ≤ Json.nestingLimit := by decide
  refine ⟨hdoubles, hnormal, hdepth, ?_⟩
  rw [parse?_text_eq_plain assorted hdoubles hnormal hdepth]
  rfl

end DocQuery
