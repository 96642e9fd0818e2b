import DocQuery.Json.Basic

/-! # Records and names in JSON

The shapes in which structured data is written as JSON.

* A *record* is an object of named fields in any order, each at most once, in which
  unknown names are passed over, usable or not; or an array of the fields in their
  declared order, of which some may be missing at the end.
* A *choice* is a name alone, or an object whose only name carries a content.
* A choice without content is a *word*.  It may be given `null` as its content, and where
  `emptyContent` is set an empty object as well.

Readers are functions `Json → Option α`; `none` means that the tree has another shape. -/
namespace DocQuery.Json

/-! ### Atoms -/

def string? : Json → Option String
  | .str s => some s
  | _ => none

/-- An index from `0` to `2 ^ 64 - 1`. -/
def index? : Json → Option UInt64
  | .int n => if 0 ≤ n ∧ n < UInt64.size then some (UInt64.ofNat n.toNat) else none
  | _ => none

/-- `null`, or what `read` accepts. -/
def nullable? {α : Type} (read : Json → Option α) : Json → Option (Option α)
  | .null => some none
  | j => (read j).map some

/-- The tree of a value, or `null` if there is none. -/
def orNull {α : Type} (write : α → Json) : Option α → Json
  | none => .null
  | some a => write a

/-- An array of what `read` accepts. -/
def list? {α : Type} (read : Json → Option α) : Json → Option (List α)
  | .arr items => items.mapM read
  | _ => none

/-- An array of exactly two items. -/
def pair? {α β : Type} (first : Json → Option α) (second : Json → Option β) :
    Json → Option (α × β)
  | .arr [a, b] => do
      let a ← first a
      let b ← second b
      some (a, b)
  | _ => none

/-! ### Choices -/

/-- The name of a choice, and its content if it has one. -/
def choice? : Json → Option (String × Option Json)
  | .str name => some (name, none)
  | .obj [(name, content)] => some (name, some content)
  | _ => none

/-- Whether the content of a choice says nothing. -/
def isNothing (emptyContent : Bool) : Option Json → Bool
  | none => true
  | some .null => true
  | some (.obj []) => emptyContent
  | some _ => false

/-- A choice without content. -/
def word? (emptyContent : Bool) (j : Json) : Option String :=
  match j.choice? with
  | some (name, content) => if isNothing emptyContent content then some name else none
  | none => none

/-! ### Records -/

/-- The fields of a record by name. -/
abbrev Fields := List (String × Json)

/-- The fields of a record with the given names. -/
def fields? (names : List String) : Json → Option Fields
  | .obj pairs =>
      let known := pairs.filter fun (name, _) => names.contains name
      if (known.map Prod.fst).Nodup then some known else none
  | .arr items => if items.length ≤ names.length then some (names.zip items) else none
  | _ => none

namespace Fields

/-- A field that must be there. -/
def get? {α : Type} (fields : Fields) (name : String) (read : Json → Option α) : Option α :=
  match fields.lookup name with
  | none => none
  | some j => read j

/-- A field that has a default. -/
def getD? {α : Type} (fields : Fields) (name : String) (default : α) (read : Json → Option α) :
    Option α :=
  match fields.lookup name with
  | none => some default
  | some j => read j

end Fields
end DocQuery.Json
