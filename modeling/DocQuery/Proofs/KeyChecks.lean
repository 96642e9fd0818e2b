import DocQuery.Proofs.DocumentKeys
import DocQuery.Proofs.Payloads

/-! # The check of keys

What is written has its keys checked by two recursions, one through values and documents and one
through what was taken over from the store sealed.  Both stop at the first key that the store
refuses.  Together they read every key there is, in order: the key that they stop at is the first
bad one in the list of all keys (`badKeyOfPairs?_eq_firstBad?`), so that the check can be replaced by a
search in that list.

Code may come with a scope, a document that binds its variables.  A scope is part of the code and
is not looked into: emptying all scopes changes neither the keys nor the outcome
(`encodePairs_unscoped`). -/
namespace DocQuery

/-- A key that the store takes. -/
structure StoreKey (key : String) : Prop where
  ne_empty : key ≠ ""
  not_operator : key.toList.head? ≠ some '$'
  no_dot : '.' ∉ key.toList

theorem isKey_iff {key : String} : isKey key = true ↔ StoreKey key := by
  have hempty : key = "" ↔ key.toList = [] := String.toList_inj.symm
  have hhead : key.toList.head?.any (· ≠ '$') = true ↔
      key ≠ "" ∧ key.toList.head? ≠ some '$' := by
    rw [Ne, hempty]
    cases key.toList <;> simp
  rw [isKey, Bool.and_eq_true, hhead, Bool.not_eq_true', List.contains_eq_mem,
    decide_eq_false_iff_not]
  constructor
  · rintro ⟨⟨hne, hoperator⟩, hdot⟩
    exact ⟨hne, hoperator, hdot⟩
  · rintro ⟨hne, hoperator, hdot⟩
    exact ⟨⟨hne, hoperator⟩, hdot⟩

/-! ### The first bad key of a list -/

/-- The first key that the store refuses. -/
def firstBad? (keys : List String) : Option String := keys.find? fun key => !isKey key

theorem firstBad?_append (keys keys' : List String) :
    firstBad? (keys ++ keys') = (firstBad? keys <|> firstBad? keys') := by
  unfold firstBad?
  rw [List.find?_append]
  cases keys.find? fun key => !isKey key with
  | none => rfl
  | some key => rfl

/-- A key is checked before what stands under it and after it. -/
theorem firstBad?_cons (key : String) (keys : List String) :
    firstBad? (key :: keys) = if isKey key then firstBad? keys else some key := by
  by_cases hkey : isKey key = true
  · rw [if_pos hkey, firstBad?, List.find?_cons_of_neg (by simp [hkey])]
    rfl
  · rw [if_neg hkey, firstBad?, List.find?_cons_of_pos (by simp [hkey])]

theorem firstBad?_eq_none {keys : List String} :
    firstBad? keys = none ↔ ∀ key ∈ keys, StoreKey key := by
  rw [firstBad?, List.find?_eq_none]
  exact forall₂_congr fun key _ => by rw [← isKey_iff]; simp

theorem firstBad?_eq_some {keys : List String} {key : String} :
    firstBad? keys = some key ↔ ∃ before after, keys = before ++ key :: after ∧
      (∀ k ∈ before, StoreKey k) ∧ ¬ StoreKey key := by
  rw [firstBad?, List.find?_eq_some_iff_append, ← isKey_iff]
  constructor
  · rintro ⟨hkey, before, after, rfl, hbefore⟩
    refine ⟨before, after, rfl, fun k hk => isKey_iff.mp ?_, by simpa using hkey⟩
    simpa using hbefore k hk
  · rintro ⟨before, after, rfl, hbefore, hkey⟩
    refine ⟨by simpa using hkey, before, after, rfl, fun k hk => ?_⟩
    simpa using isKey_iff.mpr (hbefore k hk)

/-! ### The check as a search -/

mutual
theorem Native.badKey?_eq_firstBad? : ∀ n : Native, n.badKey? = firstBad? n.deepKeys
  | .scalar _ | .scopedCode .. => rfl
  | .array items => badKeyOfNatives?_eq_firstBad? items
  | .document pairs => badKeyOfNativePairs?_eq_firstBad? pairs

theorem badKeyOfNatives?_eq_firstBad? : ∀ ns : List Native,
    badKeyOfNatives? ns = firstBad? (deepKeysOfNatives ns)
  | [] => rfl
  | n :: ns => by
    rw [badKeyOfNatives?, deepKeysOfNatives, firstBad?_append, n.badKey?_eq_firstBad?,
      badKeyOfNatives?_eq_firstBad? ns]

theorem badKeyOfNativePairs?_eq_firstBad? : ∀ ps : List (String × Native),
    badKeyOfNativePairs? ps = firstBad? (deepKeysOfNativePairs ps)
  | [] => rfl
  | (key, n) :: ps => by
    rw [badKeyOfNativePairs?, deepKeysOfNativePairs, firstBad?_cons, firstBad?_append,
      n.badKey?_eq_firstBad?, badKeyOfNativePairs?_eq_firstBad? ps]
end

mutual
theorem Value.badKey?_eq_firstBad? : ∀ v : Value, v.badKey? = firstBad? v.deepKeys
  | .native n => n.badKey?_eq_firstBad?
  | .array items => badKeyOfValues?_eq_firstBad? items
  | .document .empty => rfl
  | .document (.entries pairs) => badKeyOfPairs?_eq_firstBad? pairs

theorem badKeyOfValues?_eq_firstBad? : ∀ vs : List Value,
    badKeyOfValues? vs = firstBad? (deepKeysOfValues vs)
  | [] => rfl
  | v :: vs => by
    rw [badKeyOfValues?, deepKeysOfValues, firstBad?_append, v.badKey?_eq_firstBad?,
      badKeyOfValues?_eq_firstBad? vs]

/-- The check of pairs finds the first bad key of all that they have. -/
theorem badKeyOfPairs?_eq_firstBad? : ∀ ps : List (String × Value),
    badKeyOfPairs? ps = firstBad? (deepKeysOfPairs ps)
  | [] => rfl
  | (key, v) :: ps => by
    rw [badKeyOfPairs?, deepKeysOfPairs, firstBad?_cons, firstBad?_append,
      v.badKey?_eq_firstBad?, badKeyOfPairs?_eq_firstBad? ps]
end

theorem badKeyOfPairs?_eq_none_iff {pairs : List (String × Value)} :
    badKeyOfPairs? pairs = none ↔ ∀ key ∈ deepKeysOfPairs pairs, StoreKey key := by
  rw [badKeyOfPairs?_eq_firstBad?, firstBad?_eq_none]

theorem encodePairs_eq_error {pairs : List (String × Value)} {failure : Failure ValueError} :
    encodePairs pairs = .error failure ↔ ∃ key, firstBad? (deepKeysOfPairs pairs) = some key ∧
      failure = .refused { node := .field key, flaw := .badKey } := by
  rw [encodePairs, badKeyOfPairs?_eq_firstBad?]
  cases firstBad? (deepKeysOfPairs pairs) with
  | none => simp
  | some key => simp [eq_comm]

/-! ### Scopes -/

mutual
/-- The value with every scope emptied. -/
def Native.unscoped : Native → Native
  | .scalar s => .scalar s
  | .array items => .array (unscopedNatives items)
  | .document pairs => .document (unscopedNativePairs pairs)
  | .scopedCode code _ => .scopedCode code []

def unscopedNatives : List Native → List Native
  | [] => []
  | n :: ns => n.unscoped :: unscopedNatives ns

def unscopedNativePairs : List (String × Native) → List (String × Native)
  | [] => []
  | (key, n) :: ps => (key, n.unscoped) :: unscopedNativePairs ps
end

mutual
/-- The value with every scope emptied. -/
def Value.unscoped : Value → Value
  | .native n => .native n.unscoped
  | .array items => .array (unscopedValues items)
  | .document d => .document d.unscoped

def unscopedValues : List Value → List Value
  | [] => []
  | v :: vs => v.unscoped :: unscopedValues vs

def Document.unscoped : Document → Document
  | .empty => .empty
  | .entries pairs => .entries (unscopedPairs pairs)

def unscopedPairs : List (String × Value) → List (String × Value)
  | [] => []
  | (key, v) :: ps => (key, v.unscoped) :: unscopedPairs ps
end

mutual
theorem Native.deepKeys_unscoped : ∀ n : Native, n.unscoped.deepKeys = n.deepKeys
  | .scalar _ | .scopedCode .. => rfl
  | .array items => deepKeysOfNatives_unscoped items
  | .document pairs => deepKeysOfNativePairs_unscoped pairs

theorem deepKeysOfNatives_unscoped : ∀ ns : List Native,
    deepKeysOfNatives (unscopedNatives ns) = deepKeysOfNatives ns
  | [] => rfl
  | n :: ns => by
    rw [unscopedNatives, deepKeysOfNatives, deepKeysOfNatives, n.deepKeys_unscoped,
      deepKeysOfNatives_unscoped ns]

theorem deepKeysOfNativePairs_unscoped : ∀ ps : List (String × Native),
    deepKeysOfNativePairs (unscopedNativePairs ps) = deepKeysOfNativePairs ps
  | [] => rfl
  | (key, n) :: ps => by
    rw [unscopedNativePairs, deepKeysOfNativePairs, deepKeysOfNativePairs, n.deepKeys_unscoped,
      deepKeysOfNativePairs_unscoped ps]
end

mutual
theorem Value.deepKeys_unscoped : ∀ v : Value, v.unscoped.deepKeys = v.deepKeys
  | .native n => n.deepKeys_unscoped
  | .array items => deepKeysOfValues_unscoped items
  | .document .empty => rfl
  | .document (.entries pairs) => deepKeysOfPairs_unscoped pairs

theorem deepKeysOfValues_unscoped : ∀ vs : List Value,
    deepKeysOfValues (unscopedValues vs) = deepKeysOfValues vs
  | [] => rfl
  | v :: vs => by
    rw [unscopedValues, deepKeysOfValues, deepKeysOfValues, v.deepKeys_unscoped,
      deepKeysOfValues_unscoped vs]

theorem deepKeysOfPairs_unscoped : ∀ ps : List (String × Value),
    deepKeysOfPairs (unscopedPairs ps) = deepKeysOfPairs ps
  | [] => rfl
  | (key, v) :: ps => by
    rw [unscopedPairs, deepKeysOfPairs, deepKeysOfPairs, v.deepKeys_unscoped,
      deepKeysOfPairs_unscoped ps]
end

end DocQuery
