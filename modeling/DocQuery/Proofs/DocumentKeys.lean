import DocQuery.Value.Cast

/-! # The keys of a document

All keys of a value, at any depth and in reading order: a key before the keys of what stands
under it, and sealed values read like others.  Keys are those of documents; what code gives names
to in its scope belongs to the code and is no document of the value.  To the store, a key that
starts with `$` is an operator; `operatorKeys` are those keys, and they are the structure that the
store acts on. -/
namespace DocQuery

/-- Whether the store takes a key for an operator. -/
def isOperatorKey (key : String) : Bool := key.toList.head? == some '$'

/-! ### Keys at any depth -/

mutual
def Native.deepKeys : Native → List String
  | .scalar _ | .scopedCode .. => []
  | .array items => deepKeysOfNatives items
  | .document pairs => deepKeysOfNativePairs pairs

def deepKeysOfNatives : List Native → List String
  | [] => []
  | n :: ns => n.deepKeys ++ deepKeysOfNatives ns

def deepKeysOfNativePairs : List (String × Native) → List String
  | [] => []
  | (key, n) :: ps => key :: (n.deepKeys ++ deepKeysOfNativePairs ps)
end

mutual
def Value.deepKeys : Value → List String
  | .native n => n.deepKeys
  | .array items => deepKeysOfValues items
  | .document d => d.deepKeys

def deepKeysOfValues : List Value → List String
  | [] => []
  | v :: vs => v.deepKeys ++ deepKeysOfValues vs

def Document.deepKeys : Document → List String
  | .empty => []
  | .entries pairs => deepKeysOfPairs pairs

def deepKeysOfPairs : List (String × Value) → List String
  | [] => []
  | (key, v) :: ps => key :: (v.deepKeys ++ deepKeysOfPairs ps)
end

theorem deepKeysOfValues_eq_flatMap (vs : List Value) :
    deepKeysOfValues vs = vs.flatMap Value.deepKeys := by
  induction vs with
  | nil => rfl
  | cons v vs ih => rw [deepKeysOfValues, ih, List.flatMap_cons]

theorem forall_mem_deepKeysOfPairs {P : String → Prop} {pairs : List (String × Value)} :
    (∀ key ∈ deepKeysOfPairs pairs, P key) ↔
      ∀ p ∈ pairs, P p.1 ∧ ∀ key ∈ p.2.deepKeys, P key := by
  induction pairs with
  | nil => simp [deepKeysOfPairs]
  | cons p ps ih =>
    simp only [deepKeysOfPairs, List.forall_mem_cons, List.forall_mem_append, ih, and_assoc]

/-! ### Operators -/

/-- The operators of a value. -/
def Value.operatorKeys (v : Value) : List String := v.deepKeys.filter isOperatorKey

/-- The operators of a pair. -/
def pairOperatorKeys (p : String × Value) : List String :=
  (deepKeysOfPairs [p]).filter isOperatorKey

@[simp] theorem operatorKeys_scalar (x : Scalar) : (Value.scalar x).operatorKeys = [] := rfl

theorem operatorKeys_array (vs : List Value) :
    (Value.array vs).operatorKeys = vs.flatMap Value.operatorKeys := by
  unfold Value.operatorKeys
  rw [Value.deepKeys, deepKeysOfValues_eq_flatMap, List.filter_flatMap]

theorem operatorKeys_single (key : String) (v : Value) :
    (Value.document (.single key v)).operatorKeys = pairOperatorKeys (key, v) := rfl

theorem pairOperatorKeys_eq (key : String) (v : Value) :
    pairOperatorKeys (key, v) = [key].filter isOperatorKey ++ v.operatorKeys := by
  unfold pairOperatorKeys Value.operatorKeys
  rw [deepKeysOfPairs, deepKeysOfPairs, List.append_nil, ← List.filter_append,
    List.singleton_append]

end DocQuery
