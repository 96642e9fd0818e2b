import DocQuery.Plan.Task

/-! # The configuration file

An object with the settings of a planner and the primary keys of models.  Names it does not
know are passed over. -/
namespace DocQuery

/-- What reading a file can give. -/
inductive File where
  | missing
  | bytes (content : ByteArray)
  /-- The file cannot be read, for a reason that the system gives. -/
  | unreadable (reason : String)

/-- What is said of bytes that are no text. -/
def notText : String := "stream did not contain valid UTF-8"

/-- The text of a file, or why there is none. -/
def File.text : File → Except String String
  | .missing => .error "No such file or directory (os error 2)"
  | .unreadable reason => .error reason
  | .bytes content =>
      match String.fromUTF8? content with
      | some s => .ok s
      | none => .error notText

/-- Why a configuration cannot be used. -/
inductive ConfigError where
  | unreadable (reason : String)
  | malformed
  | emptyIdentityKey
  | emptyPrimaryKey (model : String)
  deriving DecidableEq

def ConfigError.message : ConfigError → String
  | .unreadable reason => "Failed to read config: " ++ reason
  | .malformed => "Invalid config JSON"
  | .emptyIdentityKey => "identity_key must not be empty"
  | .emptyPrimaryKey model => "Empty primary key for model '" ++ model ++ "'"

namespace Planner

/-- The primary keys in a tree: an object of texts. -/
def registryOfJson? : Json → Option Registry
  | .obj pairs => do
      let pairs ← pairs.mapM fun (model, j) => do some (model, ← j.string?)
      some (.ofPairs pairs)
  | _ => none

/-- The planner of a tree, which is an object. -/
def ofJson? : Json → Option Planner
  | .obj pairs => do
      let fields ← (Json.obj pairs).fields? ("primary_keys" :: Settings.fieldNames)
      let settings ← Settings.ofFields? true fields
      let registry ← fields.getD? "primary_keys" [] registryOfJson?
      some { settings, registry }
  | _ => none

/-- Refuses empty keys. -/
def check (p : Planner) : Except ConfigError Planner :=
  if p.settings.identityKey = "" then .error .emptyIdentityKey
  else
    match p.registry.find? fun (_, key) => key = "" with
    | some (model, _) => .error (.emptyPrimaryKey model)
    | none => .ok p

/-- The planner that a file configures.  All of its tree must be usable, fields that are
passed over included. -/
def load (file : File) : Except ConfigError Planner :=
  match file.text with
  | .error reason => .error (.unreadable reason)
  | .ok s =>
      match ((Json.parse? s).filter Json.isUsable).bind ofJson? with
      | none => .error .malformed
      | some p => p.check

end Planner
end DocQuery
