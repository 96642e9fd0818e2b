import DocQuery.Value.Scalar

/-! # Values and documents

A value is a native value of the store, an array or a document.  Native values are the
scalars and, besides, arrays and documents that were taken over from the store as they are
and that stay sealed: no cast looks into them.  Code can have a scope, which gives values to its
free names.

A document is an ordered list of pairs in which a key may occur more than once, so that two
conditions on one field are both kept.  The document that says nothing is `empty`; every
operation here gives `empty` for no pairs, so `entries` always holds at least one. -/
namespace DocQuery

/-- A value as the store holds it. -/
inductive Native where
  | scalar (s : Scalar)
  | array (items : List Native)
  | document (pairs : List (String × Native))
  /-- Code together with the values of its free names. -/
  | scopedCode (code : String) (scope : List (String × Native))

mutual
/-- A value in a query or a document. -/
inductive Value where
  | native (n : Native)
  | array (items : List Value)
  | document (d : Document)

/-- An ordered list of pairs. -/
inductive Document where
  /-- No pairs: no conditions, or nothing left out. -/
  | empty
  | entries (pairs : List (String × Value))
end

instance : Inhabited Native := ⟨.scalar .null⟩
instance : Inhabited Value := ⟨.native default⟩
instance : Inhabited Document := ⟨.empty⟩

namespace Value

/-- A scalar as a value. -/
@[match_pattern] abbrev scalar (s : Scalar) : Value := .native (.scalar s)

@[match_pattern] abbrev null : Value := .scalar .null

@[match_pattern] abbrev string (s : String) : Value := .scalar (.string s)

@[match_pattern] abbrev bool (b : Bool) : Value := .scalar (.bool b)

@[match_pattern] abbrev int (n : Int64) : Value := .scalar (.int64 n)

/-- The integer of a value that is one. -/
def int? : Value → Option Int64
  | .scalar s => s.int?
  | _ => none

/-- The name of a value's type. -/
def typeName : Value → String
  | .scalar s => s.typeName
  | .native _ => "bson"
  | .array _ => "array"
  | .document _ => "document"

end Value

/-! ### Documents -/

namespace Document

/-- The pairs in order. -/
def pairs : Document → List (String × Value)
  | .empty => []
  | .entries ps => ps

/-- The document with given pairs. -/
def ofPairs : List (String × Value) → Document
  | [] => .empty
  | p :: ps => .entries (p :: ps)

/-- The document with one pair. -/
def single (key : String) (value : Value) : Document := .entries [(key, value)]

def isEmpty : Document → Bool
  | .empty => true
  | .entries _ => false

/-- The number of pairs. -/
def size (d : Document) : Nat := d.pairs.length

/-- The keys in order, repeats included. -/
def keys (d : Document) : List String := d.pairs.map Prod.fst

/-- The first value under a key. -/
def get? (d : Document) (key : String) : Option Value := d.pairs.lookup key

/-- All values under a key, in order. -/
def getAll (d : Document) (key : String) : List Value :=
  (d.pairs.filter fun (k, _) => k == key).map Prod.snd

/-- The document with one more pair at its end. -/
def push (d : Document) (key : String) (value : Value) : Document :=
  match d with
  | .empty => .entries [(key, value)]
  | .entries ps => .entries (ps ++ [(key, value)])

/-- The pairs of one document and then those of another. -/
def append : Document → Document → Document
  | .empty, d => d
  | d, .empty => d
  | .entries ps, .entries qs => .entries (ps ++ qs)

instance : Append Document := ⟨append⟩

@[simp] theorem pairs_ofPairs (ps : List (String × Value)) : (ofPairs ps).pairs = ps := by
  cases ps <;> rfl

@[simp] theorem pairs_push (d : Document) (key : String) (value : Value) :
    (d.push key value).pairs = d.pairs ++ [(key, value)] := by
  cases d <;> rfl

@[simp] theorem pairs_append (d e : Document) : (d ++ e).pairs = d.pairs ++ e.pairs := by
  change (append d e).pairs = _
  cases d <;> cases e <;> simp [append, pairs]

end Document

/-! ### Equality

Structural, with doubles compared as numbers.  A sealed document is a map, which holds each
key once, and so is a scope: two are the same if they give the same values to the same keys, in any
order.  For all other documents the order of the pairs counts. -/

mutual
def Native.same : Native → Native → Bool
  | .scalar a, .scalar b => a.same b
  | .array as, .array bs => sameNatives as bs
  | .document ps, .document qs => ps.length == qs.length && sameNativePairs ps qs
  | .scopedCode c ps, .scopedCode d qs =>
      c == d && ps.length == qs.length && sameNativePairs ps qs
  | _, _ => false

def sameNatives : List Native → List Native → Bool
  | [], [] => true
  | a :: as, b :: bs => a.same b && sameNatives as bs
  | _, _ => false

/-- Whether each pair of the first list has the same value under its key in the second. -/
def sameNativePairs : List (String × Native) → List (String × Native) → Bool
  | [], _ => true
  | (k, a) :: ps, qs => (qs.lookup k).any (a.same ·) && sameNativePairs ps qs
end

mutual
def Value.same : Value → Value → Bool
  | .native a, .native b => a.same b
  | .array as, .array bs => sameValues as bs
  | .document d, .document e => d.same e
  | _, _ => false

def sameValues : List Value → List Value → Bool
  | [], [] => true
  | a :: as, b :: bs => a.same b && sameValues as bs
  | _, _ => false

def Document.same : Document → Document → Bool
  | .empty, .empty => true
  | .entries ps, .entries qs => samePairs ps qs
  | _, _ => false

def samePairs : List (String × Value) → List (String × Value) → Bool
  | [], [] => true
  | (k, a) :: ps, (l, b) :: qs => k == l && a.same b && samePairs ps qs
  | _, _ => false
end

end DocQuery
