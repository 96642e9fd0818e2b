import DocQuery.Plan.Json
import DocQuery.Proofs.NormalPlans

/-! # Plans read back from their trees

A plan is handed on as a JSON object with one pair for each of its parts.  What a tree has to hold
to show a plan is said here by reading it (`Plan.IsShownBy`): under each name stands what is read
back as the part, values in their plain form, notes of a selection one by one, and nothing else is
there.  The tree of a plan whose documents are proper shows the plan (`Plan.isShownBy_toJson`). -/
namespace DocQuery

namespace Json

/-- The names in an object, in order. -/
def names : Json → List String
  | .obj pairs => pairs.map Prod.fst
  | _ => []

/-- What stands under a name in an object, as `read` reads it. -/
def part? {α : Type} (j : Json) (name : String) (read : Json → Option α) : Option α :=
  match j with
  | .obj pairs => Fields.get? pairs name read
  | _ => none

end Json

/-! ### Notes of a selection -/

namespace Output

/-- The note of a tree: an object whose only name is the kind of the note. -/
def ofJson? : Json → Option Output
  | .obj [(kind, j)] =>
      match kind with
      | "value" => .value <$> Value.ofJson? j
      | "model" => .record <$> Source.ofJson? j
      | "field" => .key <$> j.string?
      | _ => none
  | _ => none

/-- The note with its value in plain form. -/
def plain : Output → Output
  | .value v => .value v.plain
  | .record source => .record source
  | .key name => .key name

theorem ofJson?_toJson {o : Output} (h : ∀ d ∈ o.documents, d.IsProper) :
    ofJson? o.toJson = some o.plain := by
  cases o with
  | value v =>
    have hv : Value.ofJson? v.toJson = some v.plain :=
      v.ofJson?_toJson (v.isNormal_iff_documents.mpr h)
    change Output.value <$> Value.ofJson? v.toJson = _
    rw [hv]
    rfl
  | record source =>
    -- by name, so that it does not matter that the collection comes last here
    change Output.record <$> (Json.nullable? Json.string? (.orNull .str source.model) >>=
      fun model => some (Source.mk source.coll model)) = _
    rw [Json.nullable?_orNull_str]
    rfl
  | key name => rfl

end Output

/-! ### Plans -/

/-- The tree shows the find. -/
structure Find.IsShownBy (f : Find) (j : Json) : Prop where
  names : j.names = ["coll", "pk", "params", "query", "projection", "fields", "opts"]
  coll : j.part? "coll" Json.string? = some f.coll
  primaryKey : j.part? "pk" (Json.nullable? Json.string?) = some f.primaryKey
  params : j.part? "params" (Json.list? Value.ofJson?) = some (f.params.map Value.plain)
  query : j.part? "query" Value.ofJson? = some (.document f.query.plain)
  projection : j.part? "projection" Value.ofJson? = some (.document f.projection.plain)
  outputs : j.part? "fields" (Json.list? Output.ofJson?) = some (f.outputs.map Output.plain)
  paging : j.part? "opts" Value.ofJson? = some (.document (.entries
    [("num_return", .int f.paging.limit), ("num_skip", .int f.paging.skip)]))

/-- The tree shows the count. -/
structure Count.IsShownBy (c : Count) (j : Json) : Prop where
  names : j.names = ["coll", "pk", "query", "opts"]
  coll : j.part? "coll" Json.string? = some c.coll
  primaryKey : j.part? "pk" (Json.nullable? Json.string?) = some c.primaryKey
  filter : j.part? "query" Value.ofJson? = some (.document c.filter.plain)
  paging : j.part? "opts" Value.ofJson? = some (.document (.entries
    [("num_return", .int c.paging.limit), ("num_skip", .int c.paging.skip)]))

/-- The tree shows the write. -/
structure Write.IsShownBy (w : Write) (j : Json) : Prop where
  names : j.names = ["coll", "query", "command", "opts"]
  coll : j.part? "coll" Json.string? = some w.coll
  filter : j.part? "query" Value.ofJson? = some (.document w.filter.plain)
  command : j.part? "command" (Json.nullable? Value.ofJson?) =
    some (w.command.map fun d => .document d.plain)
  multi : j.part? "opts" Value.ofJson? = some (.document (.entries [("multi", .bool w.multi)]))

/-- The tree shows the plan. -/
def Plan.IsShownBy : Plan → Json → Prop
  | .find f, j => f.IsShownBy j
  | .count c, j => c.IsShownBy j
  | .write w, j => w.IsShownBy j

theorem Document.ofJson?_toJson {d : Document} (h : ∀ e ∈ d.documents, e.IsProper) :
    Value.ofJson? d.toJson = some (.document d.plain) :=
  Value.ofJson?_toJson (.document d) (d.isNormal_iff_documents.mpr h)

theorem Document.toJson_ne_null (d : Document) : d.toJson ≠ .null := by
  intro h
  cases d <;> cases h

theorem Paging.ofJson?_toJson (p : Paging) :
    Value.ofJson? p.toJson = some (.document (.entries
      [("num_return", .int p.limit), ("num_skip", .int p.skip)])) :=
  Document.ofJson?_toJson (p.toDocument.isNormal_iff_documents.mp rfl)

/-- **The tree of a plan shows the plan**, if all documents in it are proper. -/
theorem Plan.isShownBy_toJson {plan : Plan} (h : ∀ d ∈ plan.documents, d.IsProper) :
    plan.IsShownBy plan.toJson := by
  cases plan with
  | find f =>
    simp only [documents, List.forall_mem_append] at h
    obtain ⟨⟨⟨⟨hquery, hprojection⟩, hparams⟩, houtputs⟩, -⟩ := h
    have hnormal := valuesNormal_iff.mp ((valuesNormal_iff_documents f.params).mpr hparams)
    exact {
      names := rfl
      coll := rfl
      primaryKey := Json.nullable?_orNull_str f.primaryKey
      params := Json.list?_map_of fun v hv => v.ofJson?_toJson (hnormal v hv)
      query := Document.ofJson?_toJson hquery
      projection := Document.ofJson?_toJson hprojection
      outputs := Json.list?_map_of fun o ho => Output.ofJson?_toJson fun d hd =>
        houtputs d (List.mem_flatMap.mpr ⟨o, ho, hd⟩)
      paging := f.paging.ofJson?_toJson }
  | count c =>
    obtain ⟨hfilter, -⟩ := List.forall_mem_append.mp h
    exact {
      names := rfl
      coll := rfl
      primaryKey := Json.nullable?_orNull_str c.primaryKey
      filter := Document.ofJson?_toJson hfilter
      paging := c.paging.ofJson?_toJson }
  | write w =>
    simp only [documents, List.forall_mem_append] at h
    obtain ⟨⟨hfilter, hcommand⟩, -⟩ := h
    have hbody : Json.nullable? Value.ofJson? (.orNull Document.toJson w.command) =
        some (w.command.map fun d => .document d.plain) := by
      refine Json.nullable?_orNull_of (fun d hd => ?_) Document.toJson_ne_null
      refine Document.ofJson?_toJson fun e he => hcommand e ?_
      exact List.mem_flatMap.mpr ⟨d, Option.mem_toList.mpr hd, he⟩
    exact {
      names := rfl
      coll := rfl
      filter := Document.ofJson?_toJson hfilter
      command := hbody
      multi := rfl }

end DocQuery
