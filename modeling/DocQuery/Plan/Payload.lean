import DocQuery.Plan.Scope

/-! # Payloads

What is written to the store.  The store refuses keys that are empty, start with `$` or
have a dot in them, at any depth; the primary key is renamed after the keys have been
checked, and only at the top.  Code is checked no more than other scalars are: the names in its
scope are those of its variables, and no keys. -/
namespace DocQuery

/-- Whether the store takes a key. -/
def isKey (key : String) : Bool :=
  key.toList.head?.any (· ≠ '$') && !key.toList.contains '.'

/-! ### The first bad key

In reading order: a key before what stands under it. -/

mutual
def Native.badKey? : Native → Option String
  | .scalar _ | .scopedCode .. => none
  | .array items => badKeyOfNatives? items
  | .document pairs => badKeyOfNativePairs? pairs

def badKeyOfNatives? : List Native → Option String
  | [] => none
  | n :: ns => n.badKey? <|> badKeyOfNatives? ns

def badKeyOfNativePairs? : List (String × Native) → Option String
  | [] => none
  | (key, n) :: ps => if isKey key then n.badKey? <|> badKeyOfNativePairs? ps else some key
end

mutual
def Value.badKey? : Value → Option String
  | .native n => n.badKey?
  | .array items => badKeyOfValues? items
  | .document d => d.badKey?

def badKeyOfValues? : List Value → Option String
  | [] => none
  | v :: vs => v.badKey? <|> badKeyOfValues? vs

def Document.badKey? : Document → Option String
  | .empty => none
  | .entries pairs => badKeyOfPairs? pairs

def badKeyOfPairs? : List (String × Value) → Option String
  | [] => none
  | (key, v) :: ps => if isKey key then v.badKey? <|> badKeyOfPairs? ps else some key
end

example : badKeyOfPairs? [("a", .array [.document (.single "b.c" .null)]), ("$d", .null)] =
    some "b.c" := rfl

/-! ### Encoding -/

/-- Pairs that the store takes. -/
def encodePairs (pairs : List (String × Value)) : Encoded (List (String × Value)) :=
  match badKeyOfPairs? pairs with
  | none => .ok pairs
  | some key => .error (.refused ⟨.field key, .badKey⟩)

/-- Pairs of names and expressions that the store takes.  All values come before all keys. -/
def encodeFields (params : List Value) (fields : List (String × Expr)) :
    Encoded (List (String × Value)) := do
  let pairs ← fields.mapM fun (name, e) => do pure (name, ← e.eval params)
  encodePairs pairs

namespace Scope

/-- Pairs with the primary key renamed. -/
def rename (s : Scope) (pairs : List (String × Value)) : List (String × Value) :=
  pairs.map fun (name, v) => (s.key name, v)

/-- The document of given pairs. -/
def record (s : Scope) (clause : Clause) (pairs : List (String × Value)) : Planned Document :=
  (Document.ofPairs ∘ s.rename) <$> (encodePairs pairs).inClause clause

/-- The pairs of field updates. -/
def updatePairs (s : Scope) (fields : List (String × Expr)) : Planned (List (String × Value)) :=
  s.rename <$> (encodeFields s.params fields).inClause .update

end Scope

/-! ### Update commands -/

/-- Pairs under each operator, the operators in order of first use. -/
abbrev Changes := List (UpdateOp × List (String × Value))

namespace Changes

/-- Adds pairs under an operator. -/
def add : Changes → UpdateOp → List (String × Value) → Changes
  | [], op, pairs => [(op, pairs)]
  | (op', pairs') :: rest, op, pairs =>
      if op' = op then (op', pairs' ++ pairs) :: rest else (op', pairs') :: add rest op pairs

/-- The changes of groups in order. -/
def ofGroups (groups : List (UpdateOp × List (String × Value))) : Changes :=
  groups.foldl (fun changes (op, pairs) => changes.add op pairs) []

/-- The command that sets pairs. -/
def setCommand (d : Document) : Document := .single UpdateOp.set.operator (.document d)

/-- The command for changes.  It is never empty: without changes it sets nothing. -/
def command : Changes → Document
  | [] => setCommand .empty
  | c :: cs => .ofPairs ((c :: cs).map fun (op, pairs) => (op.operator, .document (.ofPairs pairs)))

example : ofGroups [(.set, [("a", .null)]), (.push, []), (.set, [("b", .null)])] =
    [(.set, [("a", .null), ("b", .null)]), (.push, [])] := rfl

end Changes

/-- The command of a bulk update. -/
def Scope.updateCommand (s : Scope) (groups : List UpdateGroup) : Planned Document := do
  let groups ← groups.mapM fun g => do pure (g.op, ← s.updatePairs g.fields)
  pure (Changes.ofGroups groups).command

end DocQuery
