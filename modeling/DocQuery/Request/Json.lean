import DocQuery.Query.Json
import DocQuery.Request.Basic
import DocQuery.Text.Blank

/-! # Requests as JSON

A request is a record with one more field, `op`, that says what is asked for: an object in
which `op` stands anywhere, once, or an array that starts with it.  Fields are judged in
the order in which they are written, and the first fault is the one reported. -/
namespace DocQuery

namespace Request

/-- What a request asks for, and the record of its fields. -/
def operation? : Json → Option (String × Json)
  | .obj pairs =>
      match pairs.filter fun (name, _) => name == "op" with
      | [(_, .str op)] => some (op, .obj (pairs.filter fun (name, _) => name != "op"))
      | _ => none
  | .arr (.str op :: items) => some (op, .arr items)
  | _ => none

/-! ### Queries -/

/-- The query and the parameters of a request. -/
def queryFields? (j : Json) : Option (Query × List Value) := do
  let fields ← j.fields? ["query", "params"]
  let q ← fields.get? "query" (Query.ofJson? true)
  let params ← fields.getD? "params" [] (Json.list? Value.ofJson?)
  some (q, params)

/-- A request that has a query. -/
def ofQuery (make : Query → List Value → Request) (j : Json) : Except ReadError Request :=
  match queryFields? j with
  | some (q, params) => .ok (make q params)
  | none => .error .malformed

/-! ### Single records -/

/-- What is wrong with one field. -/
def fieldFault? (name : String) (j : Json) : Option ReadError :=
  if name = "coll" then if j.string?.isSome then none else some .malformed
  else if name = "model" then
    if (Json.nullable? Json.string? j).isSome then none else some .malformed
  else
    match Document.ofJson j with
    | .ok _ => none
    | .error e => some e

/-- The first fault among fields, of which the given ones were seen before. -/
def fault? (seen : List String) : Json.Fields → Option ReadError
  | [] => none
  | (name, j) :: rest =>
      if name ∈ seen then some .malformed else fieldFault? name j <|> fault? (name :: seen) rest

/-- The fields of a single record. -/
def recordFields (names : List String) : Json → Except ReadError Json.Fields
  | .obj pairs =>
      let known := pairs.filter fun (name, _) => names.contains name
      match fault? [] known with
      | some e => .error e
      | none => .ok known
  | .arr items =>
      match fault? [] (names.zip items) with
      | some e => .error e
      | none => if items.length ≤ names.length then .ok (names.zip items) else .error .malformed
  | _ => .error .malformed

/-- A field that is a document. -/
def document? (fields : Json.Fields) (name : String) : Option Document :=
  fields.get? name fun j => (Document.ofJson j).toOption

/-- A request that `make` takes from its fields. -/
def ofRecord (documents : List String)
    (make : String → Option String → Json.Fields → Option Request) (j : Json) :
    Except ReadError Request := do
  let fields ← recordFields ("coll" :: "model" :: documents) j
  let request? := do
    let coll ← fields.get? "coll" Json.string?
    let model ← fields.getD? "model" none (Json.nullable? Json.string?)
    make coll model fields
  match request? with
  | some r => .ok r
  | none => .error .malformed

/-! ### Reading -/

/-- The request for an operation with the record of its fields. -/
def ofOperation (op : String) (record : Json) : Except ReadError Request :=
  match op with
  | "all" => ofQuery .find record
  | "count" => ofQuery .count record
  | "update_all" => ofQuery .updateAll record
  | "delete_all" => ofQuery .deleteAll record
  | "insert" =>
      ofRecord ["document"]
        (fun coll model fields => do some (.insert coll model (← document? fields "document")))
        record
  | "update" =>
      ofRecord ["values", "filter"]
        (fun coll model fields => do
          some (.update coll model (← document? fields "values") (← document? fields "filter")))
        record
  | "delete" =>
      ofRecord ["filter"]
        (fun coll model fields => do some (.delete coll model (← document? fields "filter")))
        record
  | _ => .error .malformed

/-- The request of a tree. -/
def ofJson (j : Json) : Except ReadError Request :=
  match operation? j with
  | some (op, record) => ofOperation op record
  | none => .error .malformed

end Request

/-- Why a text is no request. -/
inductive RequestError where
  /-- The text is blank. -/
  | blank
  | json (e : ReadError)
  /-- The query reads parameters beyond those given. -/
  | params (given : Nat)
  deriving DecidableEq

def RequestError.message : RequestError → String
  | .blank => "Empty input"
  | .json e =>
      match e.message? with
      | none => "JSON error"
      | some text => "JSON error: " ++ text
  | .params given => "Query reads params beyond the " ++ given.repr ++ " given"

namespace Request

/-- Refuses a request whose query reads parameters beyond those given. -/
def checkParams (r : Request) : Except RequestError Request :=
  match r.query? with
  | some (q, params) =>
      if params.length < q.paramBound then .error (.params params.length) else .ok r
  | none => .ok r

/-- The request at the front of a text, with nothing but blanks behind it.  All of its tree
must be usable, fields that are passed over included. -/
def read (s : String) : Except ReadError Request :=
  match (Json.readFront s.toList).filter (·.1.isUsable) with
  | none => .error .malformed
  | some (j, rest) =>
      match ofJson j with
      | .error e => .error e
      | .ok r => if Json.atEnd rest then .ok r else .error .malformed

/-- A text that holds one request. -/
def parse (s : String) : Except RequestError Request :=
  if Blank.isBlankText s then .error .blank
  else
    match read s with
    | .error e => .error (.json e)
    | .ok r => r.checkParams

end Request
end DocQuery
