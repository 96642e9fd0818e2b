import DocQuery.Command.Run
import DocQuery.Proofs.Configurations
import DocQuery.Proofs.JsonSize
import DocQuery.Proofs.ParamBounds
import DocQuery.Proofs.PlanTrees
import DocQuery.Proofs.ReadRequests

/-! # Runs that compile

What a run of `compile` leaves behind, for any bytes in the configuration file and on the input.
Either it fails and prints nothing, and a fault of the configuration comes before any fault of
the input; or it prints one line that holds one JSON object, the plan of the request or its
refusal (`Mode.run_compile`).  The object shows the plan, part by part (`Plan.IsShownBy`).

The planner reads no parameter that is not there as long as there are fewer than `2 ^ 64 - 1`
of them, and a request with that many would not fit into an input. -/
namespace DocQuery

/-! ### The parameters of a request -/

namespace Json

/-- A field of a record is smaller than the record. -/
theorem size_lt_of_fields? {names : List String} {j t : Json} {fields : Fields}
    (h : j.fields? names = some fields) {name : String} (hlookup : fields.lookup name = some t) :
    t.size < j.size := by
  obtain ⟨before, after, rfl, -⟩ := List.lookup_eq_some_iff.mp hlookup
  have hmem : (name, t) ∈ before ++ (name, t) :: after :=
    List.mem_append_right before List.mem_cons_self
  unfold fields? at h
  split at h
  · dsimp only at h
    split at h
    · rw [← Option.some.inj h] at hmem
      exact Nat.lt_succ_of_le (size_le_pairsSize (List.mem_of_mem_filter hmem))
    · cases h
  · split at h
    · rw [← Option.some.inj h] at hmem
      exact Nat.lt_succ_of_le (size_le_itemsSize (List.of_mem_zip hmem).2)
    · cases h
  · cases h

/-- A list has fewer members than its tree has values. -/
theorem length_lt_of_list? {α : Type} {read : Json → Option α} {j : Json} {as : List α}
    (h : j.list? read = some as) : as.length < j.size := by
  obtain ⟨items, rfl, hitems⟩ := of_list? h
  rw [← hitems.length_eq]
  exact Nat.lt_succ_of_le (length_le_itemsSize items)

theorem pairsSize_filter_le (keep : String × Json → Bool) (ps : List (String × Json)) :
    pairsSize (ps.filter keep) ≤ pairsSize ps := by
  induction ps with
  | nil => exact Nat.le_refl 0
  | cons p ps ih =>
    rw [List.filter_cons]
    split
    · exact Nat.add_le_add_left ih _
    · exact Nat.le_trans ih (Nat.le_add_left _ _)

end Json

namespace Request

theorem size_le_of_operation? {j record : Json} {op : String}
    (h : operation? j = some (op, record)) : record.size ≤ j.size := by
  unfold operation? at h
  split at h
  · split at h
    · cases h
      exact Nat.succ_le_succ (Json.pairsSize_filter_le _ _)
    · cases h
  · cases h
    exact Nat.succ_le_succ (Nat.le_add_left _ _)
  · cases h

theorem length_params_of_queryFields? {j : Json} {q : Query} {params : List Value}
    (h : queryFields? j = some (q, params)) : params.length + 1 < j.size := by
  obtain ⟨fields, hfields, h⟩ := Option.bind_eq_some_iff.mp h
  obtain ⟨q', hquery, h⟩ := Option.bind_eq_some_iff.mp h
  obtain ⟨params', hparams, h⟩ := Option.bind_eq_some_iff.mp h
  cases h
  unfold Json.Fields.getD? at hparams
  split at hparams
  · -- without parameters the query alone makes up the size
    cases hparams
    unfold Json.Fields.get? at hquery
    split at hquery
    · cases hquery
    · rename_i t hlookup
      have ht := t.size_pos
      have hsize := Json.size_lt_of_fields? hfields hlookup
      rw [List.length_nil]
      omega
  · rename_i t hlookup
    have hsize := Json.size_lt_of_fields? hfields hlookup
    have hlength := Json.length_lt_of_list? hparams
    omega

theorem length_params_of_ofJson {j : Json} {r : Request} (h : ofJson j = .ok r)
    {q : Query} {params : List Value} (hq : r.query? = some (q, params)) :
    params.length + 1 < j.size := by
  unfold ofJson at h
  split at h
  · rename_i hop
    have hfields := (of_ofOperation h).1 q params hq
    exact Nat.lt_of_lt_of_le (length_params_of_queryFields? hfields) (size_le_of_operation? hop)
  · cases h

theorem of_ofBytes {input : ByteArray} {r : Request} (h : ofBytes input = .ok r) :
    ∃ s, String.fromUTF8? input = some s ∧ parse s = .ok r := by
  unfold ofBytes at h
  split at h
  · cases h
  · rename_i s hs
    exact ⟨s, hs, mapError_eq_ok.mp h⟩

/-- An exact tree is the request on an input that holds its text. -/
theorem ofBytes_text (j : Json) {r : Request} (hexact : j.isExact = true)
    (hdepth : j.depth ≤ Json.nestingLimit) (husable : j.isUsable = true)
    (hj : ofJson j = .ok r) (hparams : r.checkParams = .ok r) :
    ofBytes j.text.toUTF8 = .ok r := by
  have hbytes : String.fromUTF8? j.text.toUTF8 = some j.text := dif_pos j.text.isValidUTF8
  have hfront : (Json.readFront j.text.toList).filter (·.1.isUsable) = some (j, []) := by
    rw [Json.readFront_text, Json.reread_of_isExact j _ hexact hdepth]
    exact Option.filter_some_pos husable
  have hblank : ¬ Blank.isBlankText j.text = true := by
    intro hblank
    rw [Json.readFront_of_isBlank hblank] at hfront
    cases hfront
  have hread : read j.text = .ok r := by
    rw [read, hfront]
    dsimp only
    rw [hj]
    rfl
  rw [ofBytes, hbytes]
  dsimp only
  rw [parse, if_neg hblank, hread]
  dsimp only
  rw [hparams]
  rfl

/-- There are fewer parameters than bytes on the input. -/
theorem length_params_of_ofBytes {input : ByteArray} {r : Request}
    (h : ofBytes input = .ok r) {q : Query} {params : List Value}
    (hq : r.query? = some (q, params)) : params.length + 1 < input.size := by
  obtain ⟨s, hs, hparse⟩ := of_ofBytes h
  obtain ⟨j, rest, hfront, hj⟩ := of_parse hparse
  calc params.length + 1
    _ < j.size := length_params_of_ofJson hj hq
    _ ≤ s.toList.length := Json.size_le_of_readFront hfront
    _ ≤ input.size := Json.length_le_of_fromUTF8? hs

end Request

/-- A request from an input is answered without a read outside its parameters. -/
theorem Planner.answer_of_ofBytes (p : Planner) {input : ByteArray} {r : Request}
    (h : Request.ofBytes input = .ok r) (hsize : input.size < 2 ^ 64) :
    (∃ plan, p.answer r = .ok plan) ∨ ∃ refusal, p.answer r = .error (.refused refusal) := by
  obtain ⟨s, -, hparse⟩ := Request.of_ofBytes h
  refine inBounds_iff.mp (p.answer_inBounds fun q params hq e he => ?_)
  have hlength := Request.length_params_of_ofBytes h hq
  have hbound := Expr.paramBounds_le_iff.mp (Request.paramBound_le_of_parse hparse hq) e he
  -- below this length, the bound of a parameter past the end exceeds the length
  have hmax : params.length < 2 ^ 64 - 1 := by omega
  exact (Expr.paramBound_le_iff hmax e).mp hbound

/-! ### What a run leaves behind -/

/-- The code and the message that a refusal is told by: the kind of the refusal, and what was
refused in words. -/
inductive Refusal.IsToldBy : Refusal → String → String → Prop
  | unsupported (feature : Feature) : IsToldBy (.unsupported feature)
      "DOCWIRE_UNSUPPORTED_CLAUSE" ("document store does not support " ++ feature.label)
  | invalid (clause : Clause) (node : Expr) (flaw : Option Flaw) :
      IsToldBy (.invalid clause node flaw) "DOCWIRE_INVALID_EXPRESSION"
        ("invalid expression in " ++ clause.label ++ ": " ++ node.describe)

theorem Refusal.isToldBy (r : Refusal) : r.IsToldBy r.code r.message := by
  cases r with
  | unsupported feature => exact .unsupported feature
  | invalid clause node flaw => exact .invalid clause node flaw

namespace Outcome

/-- The run has failed with an error and printed nothing. -/
structure Fails (o : Outcome) (e : CommandError) : Prop where
  stdout : o.stdout = ""
  failure : o.failure = some (.refused e)

/-- The run has printed one line, which holds an object with the given pairs. -/
structure Prints (o : Outcome) (pairs : List (String × Json)) : Prop where
  failure : o.failure = none
  stdout : o.stdout = (Json.obj pairs).text ++ "\n"
  one_line : '\n' ∉ (Json.obj pairs).text.toList
  well_formed : Json.parse? (Json.obj pairs).text =
    some (.obj (Json.rereadPairs (Json.nestingLimit - 1) pairs))

theorem prints_line (pairs : List (String × Json)) (stderr : String) :
    Prints { stdout := (Json.obj pairs).text ++ "\n", stderr } pairs where
  failure := rfl
  stdout := rfl
  one_line := Json.newline_not_mem_text _
  well_formed := Json.parse?_text _

end Outcome

/-- **A run of `compile` fails or prints one JSON object on a line.**  It fails with the fault of
the configuration, or else with the fault of the input.  Where there is neither, it prints the
plan of the request, in a tree that shows all its parts, or its refusal.  The input has fewer than
`2 ^ 64` bytes, as every input in memory has. -/
theorem Mode.run_compile (file : File) (input : ByteArray) (hsize : input.size < 2 ^ 64) :
    (∀ e, Planner.load file = .error e → (Mode.compile.run file input).Fails (.config e)) ∧
    (∀ p e, Planner.load file = .ok p → Request.ofBytes input = .error e →
      (Mode.compile.run file input).Fails e) ∧
    (∀ p r, Planner.load file = .ok p → Request.ofBytes input = .ok r →
      (∃ plan, p.answer r = .ok plan ∧ plan.IsShownBy plan.toJson ∧
        (Mode.compile.run file input).Prints [("status", .str "ok"), ("data", plan.toJson)]) ∨
      ∃ refusal, p.answer r = .error (.refused refusal) ∧
        refusal.IsToldBy refusal.code refusal.message ∧
        (Mode.compile.run file input).Prints [("status", .str "error"),
          ("code", .str refusal.code), ("message", .str refusal.message)]) := by
  refine ⟨?_, ?_, ?_⟩
  · intro e hload
    have hcommand : Command.load file input = .error (.config e) := by
      rw [Command.load, hload]
      rfl
    rw [run, hcommand]
    exact ⟨rfl, rfl⟩
  · intro p e hload hinput
    have hcommand : Command.load file input = .error e := by
      rw [Command.load, hload, hinput]
      rfl
    rw [run, hcommand]
    exact ⟨rfl, rfl⟩
  · intro p r hload hinput
    have hcommand : Command.load file input = .ok (p, r) := by
      rw [Command.load, hload, hinput]
      rfl
    rw [run, hcommand]
    dsimp only
    rcases p.answer_of_ofBytes hinput hsize with ⟨plan, hplan⟩ | ⟨refusal, hrefusal⟩
    · obtain ⟨s, -, hparse⟩ := Request.of_ofBytes hinput
      have hproper := Planner.isProper_of_answer hparse hplan
      rw [hplan]
      exact .inl ⟨plan, rfl, Plan.isShownBy_toJson hproper, Outcome.prints_line _ _⟩
    · rw [hrefusal]
      exact .inr ⟨refusal, rfl, refusal.isToldBy, Outcome.prints_line _ _⟩

/-- A request to find records, with line breaks in the name of the collection and in a parameter,
that reads both its parameters and orders by a field. -/
def brokenRequest : Json :=
  .obj [("op", .str "all"),
    ("query", .obj [("from", .obj [("coll", .str "a\nb"), ("model", .str "User")]),
      ("wheres", .arr [.obj [("compare", .obj [("op", .str "eq"),
        ("left", .obj [("field", .str "id")]), ("right", .obj [("param", .int 0)])])]]),
      ("order_bys", .arr [.arr [.obj [("direction", .str "desc"),
        ("expr", .obj [("field", .str "name")])]]]),
      ("select", .arr [.obj [("field", .str "id")], .obj [("param", .int 1)], .str "source"]),
      ("limit", .obj [("literal", .int 5)])]),
    ("params", .arr [.int 7, .obj [("k\n", .str "\n"), ("k\n", .arr [])]])]

/-- A configuration with one primary key. -/
def userConfig : Json := .obj [("primary_keys", .obj [("User", .str "id")])]

/-- What is printed as the plan of the request. -/
def brokenPlan : Json :=
  .obj [("coll", .str "a\nb"), ("pk", .str "id"),
    ("params", .arr [.int 7, .obj [("k\n", .str "\n"), ("k\n", .arr [])]]),
    ("query", .obj [("$query", .obj [("_id", .int 7)]), ("$orderby", .obj [("name", .int (-1))])]),
    ("projection", .obj []),
    ("fields", .arr [.obj [("field", .str "_id")],
      .obj [("value", .obj [("k\n", .str "\n"), ("k\n", .arr [])])],
      .obj [("model", .obj [("model", .str "User"), ("coll", .str "a\nb")])]]),
    ("opts", .obj [("num_return", .int 5), ("num_skip", .int 0)])]

theorem Mode.run_compile_brokenRequest :
    brokenRequest.text.toUTF8.size < 2 ^ 64 ∧
      (Mode.compile.run (.bytes userConfig.text.toUTF8) brokenRequest.text.toUTF8).Prints
        [("status", .str "ok"), ("data", brokenPlan)] ∧
      ∃ f : Find, f.IsShownBy brokenPlan ∧ f.query.keys = ["$query", "$orderby"] ∧
        f.outputs.length = 3 := by
  have hload : Planner.load (.bytes userConfig.text.toUTF8) =
      .ok { registry := [("User", "id")] } :=
    Planner.load_text userConfig (by decide) (by decide) (by decide) rfl
  let q : Query :=
    { source := { coll := "a\nb", model := some "User" }
      conditions := [.compare .eq (.field "id") (.param 0)]
      orders := [[{ direction := .descending, expr := .field "name" }]]
      selection := some [.field "id", .param 1, .source]
      limit := some (.literal (.int 5)) }
  let params : List Value :=
    [.int 7, .document (.entries [("k\n", .string "\n"), ("k\n", .array [])])]
  have hinput : Request.ofBytes brokenRequest.text.toUTF8 = .ok (.find q params) :=
    Request.ofBytes_text brokenRequest (by decide) (by decide) (by decide) rfl rfl
  have hsize : brokenRequest.text.toUTF8.size < 2 ^ 64 := by
    rw [Json.size_toUTF8_text]
    decide +kernel
  refine ⟨hsize, ?_⟩
  obtain ⟨-, -, hprints⟩ := run_compile (.bytes userConfig.text.toUTF8) _ hsize
  rcases hprints _ _ hload hinput with ⟨plan, hplan, hshown, hprints⟩ | ⟨refusal, hrefusal, -⟩
  · cases hplan
    exact ⟨hprints, _, hshown, rfl, rfl⟩
  · cases hrefusal

end DocQuery
