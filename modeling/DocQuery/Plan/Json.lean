import DocQuery.Plan.Basic
import DocQuery.Query.Json
import DocQuery.Value.Json

/-! # Plans as JSON -/
namespace DocQuery

def Paging.toJson (p : Paging) : Json :=
  .obj [("num_return", .int p.limit.toInt), ("num_skip", .int p.skip.toInt)]

def Output.toJson : Output → Json
  | .value v => .obj [("value", v.toJson)]
  | .record source =>
      .obj [("model", .obj [("model", .orNull .str source.model), ("coll", .str source.coll)])]
  | .key name => .obj [("field", .str name)]

def Find.toJson (f : Find) : Json :=
  .obj [("coll", .str f.coll),
    ("pk", .orNull .str f.primaryKey),
    ("params", .arr (f.params.map Value.toJson)),
    ("query", f.query.toJson),
    ("projection", f.projection.toJson),
    ("fields", .arr (f.outputs.map Output.toJson)),
    ("opts", f.paging.toJson)]

def Count.toJson (c : Count) : Json :=
  .obj [("coll", .str c.coll),
    ("pk", .orNull .str c.primaryKey),
    ("query", c.filter.toJson),
    ("opts", c.paging.toJson)]

def Write.toJson (w : Write) : Json :=
  .obj [("coll", .str w.coll),
    ("query", w.filter.toJson),
    ("command", .orNull Document.toJson w.command),
    ("opts", .obj [("multi", .bool w.multi)])]

/-- The tree of a plan. -/
def Plan.toJson : Plan → Json
  | .find f => f.toJson
  | .count c => c.toJson
  | .write w => w.toJson

/-- The text of a plan. -/
def Plan.text (p : Plan) : String := p.toJson.text

end DocQuery
