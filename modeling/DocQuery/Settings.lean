import DocQuery.Journal
import DocQuery.Json.Reader

/-! # Settings

What planning can be told: the key under which the store identifies a record, how grave an
event has to be for the journal, and the primary key of each model. -/
namespace DocQuery

/-- Settings of a planner. -/
structure Settings where
  identityKey : String := "_id"
  threshold : Severity := .error
  deriving DecidableEq

namespace Settings

def toJson (s : Settings) : Json :=
  .obj [("identity_key", .str s.identityKey), ("log_level", .str s.threshold.word)]

/-- The text of settings. -/
def text (s : Settings) : String := s.toJson.text

/-- The settings of a record's fields. -/
def ofFields? (emptyContent : Bool) (fields : Json.Fields) : Option Settings := do
  let identityKey ← fields.getD? "identity_key" "_id" Json.string?
  let threshold ← fields.getD? "log_level" .error (Severity.ofJson? emptyContent)
  some { identityKey, threshold }

def fieldNames : List String := ["identity_key", "log_level"]

/-- A text that holds settings. -/
def parse? (s : String) : Option Settings := do
  let j ← Json.parse? s
  let fields ← j.fields? fieldNames
  ofFields? false fields

end Settings

/-- The primary keys of models, each model once. -/
abbrev Registry := List (String × String)

namespace Registry

/-- Gives a model a primary key, in place of the one it had. -/
def register (r : Registry) (model key : String) : Registry :=
  r.filter (fun (m, _) => m ≠ model) ++ [(model, key)]

/-- The registry of pairs, of which the last for a model counts. -/
def ofPairs (pairs : List (String × String)) : Registry :=
  pairs.foldl (fun r (model, key) => r.register model key) []

/-- The primary key of a model.  Were a model there twice, the last of its keys would count. -/
def primaryKey? (r : Registry) (model : String) : Option String := r.reverse.lookup model

end Registry
end DocQuery
