import DocQuery.Proofs.CompileRun

/-! # Requests do not depend on how they are written

A request is an object, and its operation decides which other fields are read.  The operation may
come after them; fields may be missing; fields that the operation does not have are passed over.
None of this makes a difference to what is read.  `Request.Rewritten` says when two objects differ
only in the order of fields, in that of the fields of the query, and in fields that are passed
over, and two such objects are the same request or both are none (`Request.parse_of_rewritten`).

Fields that are passed over are read as JSON all the same.  A number that is too large for a double
spoils the request wherever it stands (`Request.parse_of_unusable_extra`). -/
namespace DocQuery

/-! ### Fields in any order -/

namespace Json

theorem lookup_eq_some_iff_mem {fields : Fields} (h : (fields.map Prod.fst).Nodup)
    {name : String} {j : Json} : fields.lookup name = some j ↔ (name, j) ∈ fields := by
  constructor
  · intro hlookup
    obtain ⟨before, after, rfl, -⟩ := List.lookup_eq_some_iff.mp hlookup
    exact List.mem_append_right before List.mem_cons_self
  · intro hmem
    obtain ⟨before, after, rfl⟩ := List.append_of_mem hmem
    refine List.lookup_eq_some_iff.mpr ⟨before, after, rfl, fun p hp => ?_⟩
    rw [List.map_append, List.nodup_append] at h
    have hne := h.2.2 p.1 (List.mem_map_of_mem hp) name List.mem_cons_self
    simpa using Ne.symm hne

theorem lookup_of_perm {fields fields' : Fields} (hperm : fields.Perm fields')
    (h : (fields.map Prod.fst).Nodup) (name : String) :
    fields.lookup name = fields'.lookup name := by
  have h' : (fields'.map Prod.fst).Nodup := (hperm.map Prod.fst).nodup_iff.mp h
  refine Option.ext fun j => ?_
  rw [lookup_eq_some_iff_mem h, lookup_eq_some_iff_mem h', hperm.mem_iff]

/-- The pairs that have one of the names. -/
def known (names : List String) (pairs : List (String × Json)) : Fields :=
  pairs.filter fun p => names.contains p.1

/-- Pairs with other names are passed over. -/
theorem known_of_notMem {names : List String} {name : String} (h : name ∉ names)
    (ps qs : List (String × Json)) (j : Json) :
    known names (ps ++ (name, j) :: qs) = known names (ps ++ qs) := by
  simp [known, h]

theorem fields?_obj (names : List String) (pairs : List (String × Json)) :
    (Json.obj pairs).fields? names =
      if ((known names pairs).map Prod.fst).Nodup then some (known names pairs) else none := rfl

/-- What is read from the fields of a record is the same for records with the same fields. -/
theorem fields?_bind_of_perm {β : Type} {names : List String} {read : Fields → Option β}
    (hread : ∀ fs gs : Fields, (∀ name, fs.lookup name = gs.lookup name) → read fs = read gs)
    {ps qs : List (String × Json)} (h : (known names ps).Perm (known names qs)) :
    ((Json.obj ps).fields? names).bind read = ((Json.obj qs).fields? names).bind read := by
  have hnames : ((known names ps).map Prod.fst).Nodup ↔ ((known names qs).map Prod.fst).Nodup :=
    (h.map Prod.fst).nodup_iff
  rw [fields?_obj, fields?_obj]
  by_cases hps : ((known names ps).map Prod.fst).Nodup
  · rw [if_pos hps, if_pos (hnames.mp hps), Option.bind_some, Option.bind_some]
    exact hread _ _ (lookup_of_perm h hps)
  · rw [if_neg hps, if_neg (mt hnames.mpr hps)]

/-- A field with another value under the same name: what is read is the same if it is so where the
name occurs only once. -/
theorem fields?_bind_of_replaced {β : Type} {names : List String} {read : Fields → Option β}
    {name : String} {a b : Json}
    (hread : ∀ before after : Fields, name ∉ before.map Prod.fst →
      read (before ++ (name, a) :: after) = read (before ++ (name, b) :: after))
    (ps qs : List (String × Json)) :
    ((Json.obj (ps ++ (name, a) :: qs)).fields? names).bind read =
      ((Json.obj (ps ++ (name, b) :: qs)).fields? names).bind read := by
  by_cases hname : name ∈ names
  · have hknown : ∀ j, known names (ps ++ (name, j) :: qs) =
        known names ps ++ (name, j) :: known names qs := by
      intro j
      simp [known, hname]
    rw [fields?_obj, fields?_obj, hknown, hknown]
    simp only [List.map_append, List.map_cons]
    split
    · rename_i hnodup
      refine hread _ _ fun hbefore => ?_
      exact (List.nodup_append.mp hnodup).2.2 name hbefore name List.mem_cons_self rfl
    · rfl
  · rw [fields?_obj, fields?_obj, known_of_notMem hname, known_of_notMem hname]

end Json

/-- The fields of a query may be written in any order. -/
theorem Query.ofJson?_of_perm (emptyContent : Bool) {ps qs : List (String × Json)}
    (h : ps.Perm qs) :
    Query.ofJson? emptyContent (.obj ps) = Query.ofJson? emptyContent (.obj qs) := by
  refine Json.fields?_bind_of_perm (fun fs gs hlookup => ?_) (h.filter _)
  simp only [Json.Fields.get?, Json.Fields.getD?, hlookup]

namespace Request

/-! ### Requests with a query -/

theorem ofQuery_of_perm {make : Query → List Value → Request} {ps qs : List (String × Json)}
    (h : (Json.known ["query", "params"] ps).Perm (Json.known ["query", "params"] qs)) :
    ofQuery make (.obj ps) = ofQuery make (.obj qs) := by
  have hfields : queryFields? (.obj ps) = queryFields? (.obj qs) := by
    refine Json.fields?_bind_of_perm (fun fs gs hlookup => ?_) h
    simp only [Json.Fields.get?, Json.Fields.getD?, hlookup]
  rw [ofQuery, ofQuery, hfields]

/-- Two trees that are the same query can stand for each other in a request. -/
theorem ofQuery_of_query {make : Query → List Value → Request} {a b : Json}
    (h : Query.ofJson? true a = Query.ofJson? true b) (ps qs : List (String × Json)) :
    ofQuery make (.obj (ps ++ ("query", a) :: qs)) =
      ofQuery make (.obj (ps ++ ("query", b) :: qs)) := by
  have hfields : queryFields? (.obj (ps ++ ("query", a) :: qs)) =
      queryFields? (.obj (ps ++ ("query", b) :: qs)) := by
    refine Json.fields?_bind_of_replaced (fun before after hbefore => ?_) ps qs
    have hnone : before.lookup "query" = none := by
      refine List.lookup_eq_none_iff.mpr fun p hp => bne_iff_ne.mpr fun hp' => hbefore ?_
      exact List.mem_map.mpr ⟨p, hp, hp'.symm⟩
    simp [Json.Fields.get?, Json.Fields.getD?, List.lookup_append, List.lookup_cons, hnone, h]
  rw [ofQuery, ofQuery, hfields]

/-! ### Single records -/

/-- The scan finds no fault if no field comes twice and none is bad by itself. -/
theorem fault?_eq_none_iff {seen : List String} {fields : Json.Fields} :
    fault? seen fields = none ↔
      (fields.map Prod.fst).Nodup ∧ (∀ f ∈ fields, f.1 ∉ seen) ∧
        ∀ f ∈ fields, fieldFault? f.1 f.2 = none := by
  -- every field goes into `seen` before the next, so this is about any names seen
  induction fields generalizing seen with
  | nil => simp [fault?]
  | cons f fields ih =>
    obtain ⟨name, j⟩ := f
    rw [fault?]
    by_cases hseen : name ∈ seen
    · simp [hseen]
    · rw [if_neg hseen]
      cases hfault : fieldFault? name j with
      | some e => simp [hfault]
      | none =>
        change fault? (name :: seen) fields = none ↔ _
        rw [ih, List.map_cons, List.nodup_cons, List.forall_mem_cons, List.forall_mem_cons]
        constructor
        · rintro ⟨hnodup, hnew, hfine⟩
          have hname : name ∉ fields.map Prod.fst := by
            intro hmem
            obtain ⟨f, hf, rfl⟩ := List.mem_map.mp hmem
            exact hnew f hf List.mem_cons_self
          exact ⟨⟨hname, hnodup⟩, ⟨hseen, fun f hf h => hnew f hf (List.mem_cons_of_mem _ h)⟩,
            hfault, hfine⟩
        · rintro ⟨⟨hname, hnodup⟩, ⟨-, hnew⟩, -, hfine⟩
          refine ⟨hnodup, fun f hf hmem => ?_, hfine⟩
          rcases List.mem_cons.mp hmem with heq | hmem
          · exact hname (List.mem_map.mpr ⟨f, hf, heq⟩)
          · exact hnew f hf hmem

/-- The fields of a record that has no fault are those with the names asked for. -/
theorem recordFields_obj_eq_ok {names : List String} {pairs : List (String × Json)}
    {fields : Json.Fields} :
    recordFields names (.obj pairs) = .ok fields ↔
      Json.known names pairs = fields ∧ (fields.map Prod.fst).Nodup ∧
        ∀ f ∈ fields, fieldFault? f.1 f.2 = none := by
  have hnone := @fault?_eq_none_iff [] (Json.known names pairs)
  rw [recordFields]
  dsimp only
  split
  · rename_i e hfault
    constructor
    · intro h
      cases h
    · rintro ⟨rfl, hnodup, hfine⟩
      have hfault' := hnone.mpr ⟨hnodup, fun _ _ => List.not_mem_nil, hfine⟩
      cases hfault'.symm.trans hfault
  · rename_i hfault
    constructor
    · intro h
      cases h
      obtain ⟨hnodup, -, hfine⟩ := hnone.mp hfault
      exact ⟨rfl, hnodup, hfine⟩
    · rintro ⟨rfl, -⟩
      rfl

/-- Whatever is made of the fields of a record, it is made of those with the names asked for, in any
order. -/
theorem ofRecord_of_perm {documents : List String}
    {make : String → Option String → Json.Fields → Option Request}
    (hmake : ∀ coll model (fs gs : Json.Fields), (∀ name, fs.lookup name = gs.lookup name) →
      make coll model fs = make coll model gs)
    {ps qs : List (String × Json)}
    (h : (Json.known ("coll" :: "model" :: documents) ps).Perm
      (Json.known ("coll" :: "model" :: documents) qs)) {r : Request}
    (hr : ofRecord documents make (.obj ps) = .ok r) :
    ofRecord documents make (.obj qs) = .ok r := by
  obtain ⟨fields, hfields, hr⟩ := bind_eq_ok.mp hr
  obtain ⟨rfl, hnodup, hfine⟩ := recordFields_obj_eq_ok.mp hfields
  have hfields' := recordFields_obj_eq_ok.mpr ⟨rfl, (h.map Prod.fst).nodup_iff.mp hnodup,
    fun f hf => hfine f (h.mem_iff.mpr hf)⟩
  refine bind_eq_ok.mpr ⟨_, hfields', ?_⟩
  have hlookup := Json.lookup_of_perm h hnodup
  simp only [Json.Fields.get?, Json.Fields.getD?, hlookup, hmake _ _ _ _ hlookup] at hr ⊢
  exact hr

/-! ### Operations -/

/-- The fields that an operation has. -/
def fieldNames : String → List String
  | "all" | "count" | "update_all" | "delete_all" => ["query", "params"]
  | "insert" => ["coll", "model", "document"]
  | "update" => ["coll", "model", "values", "filter"]
  | "delete" => ["coll", "model", "filter"]
  | _ => []

/-- The operation of an object is named in it once. -/
theorem operation?_obj_eq_some {pairs : List (String × Json)} {op : String} {record : Json} :
    operation? (.obj pairs) = some (op, record) ↔
      pairs.filter (·.1 == "op") = [("op", .str op)] ∧
        record = .obj (pairs.filter (·.1 != "op")) := by
  rw [operation?]
  split
  · rename_i name op' hpairs
    have hfilter : pairs.filter (·.1 == "op") = [(name, Json.str op')] := hpairs
    have hmem : (name, Json.str op') ∈ pairs.filter (·.1 == "op") := hfilter ▸ List.mem_cons_self
    obtain rfl : name = "op" := by simpa using (List.mem_filter.mp hmem).2
    constructor
    · intro h
      cases h
      exact ⟨hfilter, rfl⟩
    · rintro ⟨hop, rfl⟩
      rw [hfilter] at hop
      cases hop
      rfl
  · rename_i hnot
    constructor
    · intro h
      cases h
    · rintro ⟨hop, -⟩
      exact absurd hop (hnot _ _)

theorem ofJson_obj_eq_ok {pairs : List (String × Json)} {r : Request} :
    ofJson (.obj pairs) = .ok r ↔
      ∃ op, pairs.filter (·.1 == "op") = [("op", .str op)] ∧
        ofOperation op (.obj (pairs.filter (·.1 != "op"))) = .ok r := by
  unfold ofJson
  cases hop : operation? (.obj pairs) with
  | none =>
    constructor
    · intro h
      cases h
    · rintro ⟨op, hfilter, -⟩
      rw [operation?_obj_eq_some.mpr ⟨hfilter, rfl⟩] at hop
      cases hop
  | some operation =>
    obtain ⟨op, record⟩ := operation
    obtain ⟨hfilter, rfl⟩ := operation?_obj_eq_some.mp hop
    constructor
    · intro h
      exact ⟨op, hfilter, h⟩
    · rintro ⟨op', hfilter', h⟩
      rw [hfilter] at hfilter'
      cases hfilter'
      exact h

theorem ofOperation_of_perm {op : String} {ps qs : List (String × Json)}
    (h : (Json.known (fieldNames op) ps).Perm (Json.known (fieldNames op) qs)) {r : Request}
    (hr : ofOperation op (.obj ps) = .ok r) : ofOperation op (.obj qs) = .ok r := by
  unfold ofOperation at hr ⊢
  split at hr
  case h_1 | h_2 | h_3 | h_4 => rwa [ofQuery_of_perm h] at hr
  case h_5 | h_6 | h_7 =>
    refine ofRecord_of_perm (fun coll model fs gs hlookup => ?_) h hr
    simp only [document?, Json.Fields.get?, hlookup]
  case h_8 => cases hr

/-- Operations without a query pass over the field, the others read it as one. -/
theorem ofOperation_of_query {op : String} {ms ns : List (String × Json)} (h : ms.Perm ns)
    (ps qs : List (String × Json)) {r : Request}
    (hr : ofOperation op (.obj (ps ++ ("query", .obj ms) :: qs)) = .ok r) :
    ofOperation op (.obj (ps ++ ("query", .obj ns) :: qs)) = .ok r := by
  have hquery := Query.ofJson?_of_perm true h
  by_cases hop : "query" ∈ fieldNames op
  · unfold ofOperation at hr ⊢
    split at hr
    case h_1 | h_2 | h_3 | h_4 => rwa [ofQuery_of_query hquery] at hr
    case h_5 | h_6 | h_7 => exact absurd hop (by decide)
    case h_8 => cases hr
  · refine ofOperation_of_perm ?_ hr
    rw [Json.known_of_notMem hop, Json.known_of_notMem hop]

/-! ### Ways to write an object -/

/-- The operation that the object names does not have a field of this name. -/
structure IsForeign (name : String) (pairs : List (String × Json)) : Prop where
  ne_op : name ≠ "op"
  notMem : ∀ op, ("op", .str op) ∈ pairs → name ∉ fieldNames op

/-- The two objects differ in the order of their fields, in the order of the fields of the query,
and in usable fields that are passed over. -/
inductive Rewritten : List (String × Json) → List (String × Json) → Prop
  | permuted {ps qs : List (String × Json)} (h : ps.Perm qs) : Rewritten ps qs
  | added (ps qs : List (String × Json)) {name : String} {j : Json}
      (hname : IsForeign name (ps ++ qs)) (hj : j.isUsable = true) :
      Rewritten (ps ++ qs) (ps ++ (name, j) :: qs)
  | inQuery (ps qs : List (String × Json)) {ms ns : List (String × Json)} (h : ms.Perm ns) :
      Rewritten (ps ++ ("query", .obj ms) :: qs) (ps ++ ("query", .obj ns) :: qs)
  | symm {ps qs : List (String × Json)} (h : Rewritten ps qs) : Rewritten qs ps
  | trans {ps qs rs : List (String × Json)} (h : Rewritten ps qs) (h' : Rewritten qs rs) :
      Rewritten ps rs

theorem ofJson_of_perm {ps qs : List (String × Json)} (h : ps.Perm qs) {r : Request}
    (hr : ofJson (.obj ps) = .ok r) : ofJson (.obj qs) = .ok r := by
  obtain ⟨op, hop, hr⟩ := ofJson_obj_eq_ok.mp hr
  have hop' : qs.filter (·.1 == "op") = [("op", .str op)] := by
    rw [← List.perm_singleton, ← hop]
    exact (h.filter _).symm
  refine ofJson_obj_eq_ok.mpr ⟨op, hop', ofOperation_of_perm ?_ hr⟩
  exact (h.filter _).filter _

/-- The pairs around one that does not name the operation. -/
theorem filter_of_ne_op {name : String} (h : name ≠ "op") (ps qs : List (String × Json))
    (j : Json) :
    (ps ++ (name, j) :: qs).filter (·.1 == "op") = (ps ++ qs).filter (·.1 == "op") ∧
      (ps ++ (name, j) :: qs).filter (·.1 != "op") =
        ps.filter (·.1 != "op") ++ (name, j) :: qs.filter (·.1 != "op") := by
  simp [h]

theorem ofJson_added (ps qs : List (String × Json)) {name : String} (j : Json)
    (hname : IsForeign name (ps ++ qs)) {r : Request} :
    ofJson (.obj (ps ++ qs)) = .ok r ↔ ofJson (.obj (ps ++ (name, j) :: qs)) = .ok r := by
  obtain ⟨hop, hrest⟩ := filter_of_ne_op hname.ne_op ps qs j
  rw [ofJson_obj_eq_ok, ofJson_obj_eq_ok, hop, hrest]
  refine exists_congr fun op => and_congr_right fun hfilter => ?_
  rw [List.filter_append]
  -- the new field is foreign to this operation, since the object names it
  have hmem : ("op", .str op) ∈ ps ++ qs :=
    List.mem_of_mem_filter (hfilter ▸ List.mem_cons_self)
  have hperm := List.Perm.of_eq (Json.known_of_notMem (hname.notMem op hmem)
    (ps.filter (·.1 != "op")) (qs.filter (·.1 != "op")) j)
  exact ⟨ofOperation_of_perm hperm.symm, ofOperation_of_perm hperm⟩

theorem ofJson_inQuery (ps qs : List (String × Json)) {ms ns : List (String × Json)}
    (h : ms.Perm ns) {r : Request}
    (hr : ofJson (.obj (ps ++ ("query", .obj ms) :: qs)) = .ok r) :
    ofJson (.obj (ps ++ ("query", .obj ns) :: qs)) = .ok r := by
  have hne : "query" ≠ "op" := by decide
  have hfilter := filter_of_ne_op hne ps qs
  rw [ofJson_obj_eq_ok, (hfilter _).1, (hfilter _).2] at hr ⊢
  obtain ⟨op, hop, hr⟩ := hr
  exact ⟨op, hop, ofOperation_of_query h _ _ hr⟩

/-- Rewritten objects are the same request, or neither is one. -/
theorem Rewritten.ofJson_iff {ps qs : List (String × Json)} (h : Rewritten ps qs) {r : Request} :
    ofJson (.obj ps) = .ok r ↔ ofJson (.obj qs) = .ok r := by
  induction h with
  | permuted h => exact ⟨ofJson_of_perm h, ofJson_of_perm h.symm⟩
  | added ps qs hname _ => exact ofJson_added ps qs _ hname
  | inQuery ps qs h => exact ⟨ofJson_inQuery ps qs h, ofJson_inQuery ps qs h.symm⟩
  | symm _ ih => exact ih.symm
  | trans _ _ ih ih' => exact ih.trans ih'

end Request

/-! ### Trees with a value everywhere -/

namespace Json

theorem pairsUsable_eq_all (pairs : List (String × Json)) :
    pairsUsable pairs = pairs.all (·.2.isUsable) := by
  induction pairs with
  | nil => rfl
  | cons p ps ih => rw [List.all_cons, ← ih, pairsUsable]

theorem isUsable_obj (pairs : List (String × Json)) :
    (Json.obj pairs).isUsable = pairs.all (·.2.isUsable) := by
  rw [isUsable, pairsUsable_eq_all]

end Json

namespace Request

theorem Rewritten.isUsable_eq {ps qs : List (String × Json)} (h : Rewritten ps qs) :
    (Json.obj ps).isUsable = (Json.obj qs).isUsable := by
  induction h with
  | permuted h => rw [Json.isUsable_obj, Json.isUsable_obj, h.all_eq]
  | added ps qs _ hj => simp [Json.isUsable_obj, hj]
  | inQuery ps qs h =>
    simp only [Json.isUsable_obj, List.all_append, List.all_cons, h.all_eq]
  | symm _ ih => exact ih.symm
  | trans _ _ ih ih' => exact ih.trans ih'

theorem parse_of_parse? {s : String} {j : Json} (hs : Json.parse? s = some j) {r : Request} :
    parse s = .ok r ↔ j.isUsable = true ∧ ofJson j = .ok r ∧ r.checkParams = .ok r := by
  obtain ⟨rest, hfront, hrest⟩ := Json.readFront_of_parse? hs
  have hblank : Blank.isBlankText s ≠ true := by
    intro hblank
    rw [Json.readFront_of_isBlank hblank] at hfront
    cases hfront
  rw [parse, if_neg hblank, read, hfront, Option.filter_some]
  dsimp only
  by_cases husable : j.isUsable = true
  · rw [if_pos husable]
    dsimp only
    cases hj : ofJson j with
    | error e => simp
    | ok r' =>
      simp only [hrest, if_true, husable, true_and]
      constructor
      · intro hr
        obtain rfl := eq_of_checkParams hr
        exact ⟨rfl, hr⟩
      · rintro ⟨hr', hr⟩
        cases hr'
        exact hr
  · rw [if_neg husable]
    simp [husable]

/-- **Requests do not depend on how their object is written.**  Of two texts whose objects differ
only in the order of fields, in that of the fields of the query, and in usable fields that the
operation does not have, both are the same request or neither is one.  The operation may be named
anywhere. -/
theorem parse_of_rewritten {s s' : String} {ps qs : List (String × Json)}
    (hs : Json.parse? s = some (.obj ps)) (hs' : Json.parse? s' = some (.obj qs))
    (h : Rewritten ps qs) (r : Request) : parse s = .ok r ↔ parse s' = .ok r := by
  rw [parse_of_parse? hs, parse_of_parse? hs', h.isUsable_eq, h.ofJson_iff]

/-- A request in the order in which its fields are mostly written. -/
def plainRequest : List (String × Json) :=
  [("op", .str "all"),
    ("query", .obj [("from", .obj [("coll", .str "users")]), ("limit", .obj [("param", .int 0)])]),
    ("params", .arr [.int 7])]

/-- The same from its end, with a field of other operations. -/
def lateRequest : List (String × Json) :=
  [("params", .arr [.int 7]), ("coll", .arr [.null]),
    ("query", .obj [("limit", .obj [("param", .int 0)]), ("from", .obj [("coll", .str "users")])]),
    ("op", .str "all")]

theorem rewritten_plainRequest : Rewritten plainRequest lateRequest := by
  have hcoll : ∀ query params, IsForeign "coll"
      ([("op", .str "all"), ("query", query)] ++ [("params", params)]) := by
    refine fun query params => ⟨by decide, fun op hop => ?_⟩
    obtain rfl : op = "all" := by simpa using hop
    decide
  have hnull : (Json.arr [.null]).isUsable = true := rfl
  refine (Rewritten.inQuery [_] [_] (List.Perm.swap _ _ [])).trans ?_
  refine (Rewritten.added [_, _] [_] (hcoll _ _) hnull).trans ?_
  exact .permuted (List.reverse_perm lateRequest)

theorem parse_of_rewritten_of_lateRequest :
    Rewritten plainRequest lateRequest ∧
      parse (Json.obj lateRequest).text =
        .ok (.find { Query.all "users" with limit := some (.param 0) } [.int 7]) := by
  have hplain : Json.parse? (Json.obj plainRequest).text = some (.obj plainRequest) :=
    Json.parse?_text_of_isExact rfl (by decide)
  have hlate : Json.parse? (Json.obj lateRequest).text = some (.obj lateRequest) :=
    Json.parse?_text_of_isExact rfl (by decide)
  refine ⟨rewritten_plainRequest, ?_⟩
  rw [← parse_of_rewritten hplain hlate rewritten_plainRequest]
  exact (parse_of_parse? hplain).mpr ⟨rfl, rfl, rfl⟩

/-- A request. -/
def usersText : String :=
  r#"{"op":"all","query":{"from":{"coll":"users"}}}"#

/-- The same with a field that is passed over. -/
def spoiledText : String :=
  r#"{"op":"all","query":{"from":{"coll":"users"}},"x":1e999}"#

set_option maxRecDepth 4000 in
/-- It matters that fields that are passed over are usable.  This one is a number, but none that a
double can hold. -/
theorem parse_of_unusable_extra :
    ∃ pairs, Json.parse? usersText = some (.obj pairs) ∧
      Json.parse? spoiledText = some (.obj (pairs ++ [("x", .unusable)])) ∧
      Json.parse? "1e999" = some .unusable ∧ IsForeign "x" pairs ∧
      parse usersText = .ok (.find (Query.all "users") []) ∧ ∀ r, parse spoiledText ≠ .ok r := by
  have husers : Json.parse? usersText = some (.obj [("op", .str "all"),
      ("query", .obj [("from", .obj [("coll", .str "users")])])]) := rfl
  have hspoiled : Json.parse? spoiledText = some (.obj [("op", .str "all"),
      ("query", .obj [("from", .obj [("coll", .str "users")])]), ("x", .unusable)]) := rfl
  refine ⟨_, husers, hspoiled, rfl, ⟨by decide, fun op hop => ?_⟩, ?_, fun r hr => ?_⟩
  · obtain rfl : op = "all" := by simpa using hop
    decide
  · exact (parse_of_parse? husers).mpr ⟨rfl, rfl, rfl⟩
  · have husable := ((parse_of_parse? hspoiled).mp hr).1
    exact absurd husable (by decide)

end Request

end DocQuery
