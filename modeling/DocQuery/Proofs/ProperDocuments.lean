import DocQuery.Proofs.PlainValues

/-! # Documents without pairs

A document without pairs can be written down in two ways, as `empty` and as `entries []`.  Both have
no pairs and the same text, but only the first one is taken for empty, and whether a find has an
order is decided by that.  So the second one must not come up.  A document is *proper* if it is not
`entries []`, and a value is normal (`Value.isNormal`) exactly if all documents in it are proper.

`Document.Built` are the documents that the operations on documents and the reading of JSON can
give, in any combination.  They are proper whatever values were put into them, and if these values
were normal, then so are the documents.  Joining documents is joining their pairs. -/
namespace DocQuery

/-! ### Proper documents -/

namespace Document

/-- A document that knows whether it is empty: for it, being empty, having no pairs and being
written as an object without names are the same. -/
structure IsProper (d : Document) : Prop where
  ne_entries_nil : d ≠ .entries []
  isEmpty_iff_size : d.isEmpty = true ↔ d.size = 0
  isEmpty_iff_text : d.isEmpty = true ↔ d.text = "{}"

/-- The text of a document with pairs goes on with a quote where that of one without pairs ends. -/
theorem text_eq_braces_iff {d : Document} : d.text = "{}" ↔ d.pairs = [] := by
  match d with
  | .empty | .entries [] => exact iff_of_true rfl rfl
  | .entries ((key, v) :: ps) =>
    refine iff_of_false (fun h => ?_) (List.cons_ne_nil (key, v) ps)
    have htext := congrArg String.toList h
    rw [text, Json.text, String.toList_ofList, toJson, pairsToJson, Json.render, Json.quote] at htext
    exact absurd (List.cons.inj (List.cons.inj htext).2).1 (by decide)

theorem isProper_iff {d : Document} : d.IsProper ↔ d ≠ .entries [] := by
  refine ⟨IsProper.ne_entries_nil, fun h => ?_⟩
  have hpairs : d.isEmpty = true ↔ d.pairs = [] := by
    match d with
    | .empty => exact iff_of_true rfl rfl
    | .entries [] => exact absurd rfl h
    | .entries (p :: ps) => exact iff_of_false Bool.false_ne_true (List.cons_ne_nil p ps)
  exact ⟨h, hpairs.trans List.length_eq_zero_iff.symm, hpairs.trans text_eq_braces_iff.symm⟩

-- the document that is left out has no pairs and is not taken for empty
example : (entries []).size = 0 ∧ (entries []).isEmpty = false := ⟨rfl, rfl⟩

theorem isProper_empty : (empty : Document).IsProper :=
  isProper_iff.mpr Document.noConfusion

theorem isProper_entries {ps : List (String × Value)} : (entries ps).IsProper ↔ ps ≠ [] := by
  rw [isProper_iff, Ne, Document.entries.injEq]

end Document

/-! ### Documents at any depth -/

mutual
/-- The documents in a value, at any depth.  There are none in what is sealed. -/
def Value.documents : Value → List Document
  | .native _ => []
  | .array items => documentsOfValues items
  | .document d => d.documents

def documentsOfValues : List Value → List Document
  | [] => []
  | v :: vs => v.documents ++ documentsOfValues vs

/-- A document and the documents in it. -/
def Document.documents : Document → List Document
  | .empty => [.empty]
  | .entries pairs => .entries pairs :: documentsOfPairs pairs

def documentsOfPairs : List (String × Value) → List Document
  | [] => []
  | (_, v) :: ps => v.documents ++ documentsOfPairs ps
end

mutual
/-- A value is normal exactly if all documents in it are proper. -/
theorem Value.isNormal_iff_documents : ∀ v : Value,
    v.isNormal = true ↔ ∀ d ∈ v.documents, d.IsProper
  | .native _ => iff_of_true rfl (List.forall_mem_nil _)
  | .array items => valuesNormal_iff_documents items
  | .document d => d.isNormal_iff_documents

theorem valuesNormal_iff_documents : ∀ vs : List Value,
    valuesNormal vs = true ↔ ∀ d ∈ documentsOfValues vs, d.IsProper
  | [] => iff_of_true rfl (List.forall_mem_nil _)
  | v :: vs => by
    rw [valuesNormal, Bool.and_eq_true, documentsOfValues, List.forall_mem_append,
      v.isNormal_iff_documents, valuesNormal_iff_documents vs]

theorem Document.isNormal_iff_documents : ∀ d : Document,
    d.isNormal = true ↔ ∀ e ∈ d.documents, e.IsProper
  | .empty => iff_of_true rfl (List.forall_mem_singleton.mpr Document.isProper_empty)
  | .entries pairs => by
    rw [Document.isNormal, Bool.and_eq_true, Document.documents, List.forall_mem_cons,
      Document.isProper_entries, Bool.not_eq_true', List.isEmpty_eq_false_iff,
      pairsNormal_iff_documents pairs]

theorem pairsNormal_iff_documents : ∀ ps : List (String × Value),
    pairsNormal ps = true ↔ ∀ d ∈ documentsOfPairs ps, d.IsProper
  | [] => iff_of_true rfl (List.forall_mem_nil _)
  | (_, v) :: ps => by
    rw [pairsNormal, Bool.and_eq_true, documentsOfPairs, List.forall_mem_append,
      v.isNormal_iff_documents, pairsNormal_iff_documents ps]
end

theorem valuesNormal_iff {vs : List Value} :
    valuesNormal vs = true ↔ ∀ v ∈ vs, v.isNormal = true := by
  induction vs with
  | nil => exact iff_of_true rfl (List.forall_mem_nil _)
  | cons v vs ih => rw [valuesNormal, Bool.and_eq_true, List.forall_mem_cons, ih]

theorem pairsNormal_iff {ps : List (String × Value)} :
    pairsNormal ps = true ↔ ∀ p ∈ ps, p.2.isNormal = true := by
  induction ps with
  | nil => exact iff_of_true rfl (List.forall_mem_nil _)
  | cons p ps ih => rw [pairsNormal, Bool.and_eq_true, List.forall_mem_cons, ih]

theorem Value.isNormal_single (key : String) (v : Value) :
    (Value.document (.single key v)).isNormal = v.isNormal := Bool.and_true v.isNormal

/-! ### Operations on documents -/

namespace Document

/-- A normal document is proper and has normal values. -/
theorem isNormal_iff {d : Document} :
    d.isNormal = true ↔ d.IsProper ∧ ∀ p ∈ d.pairs, p.2.isNormal = true := by
  cases d with
  | empty => exact iff_of_true rfl ⟨isProper_empty, List.forall_mem_nil _⟩
  | entries ps =>
    rw [isNormal, Bool.and_eq_true, Bool.not_eq_true', List.isEmpty_eq_false_iff, pairsNormal_iff,
      isProper_entries]
    rfl

theorem isProper_ofPairs (ps : List (String × Value)) : (ofPairs ps).IsProper := by
  cases ps with
  | nil => exact isProper_empty
  | cons p ps => exact isProper_entries.mpr (List.cons_ne_nil p ps)

theorem isProper_single (key : String) (v : Value) : (single key v).IsProper :=
  isProper_entries.mpr (List.cons_ne_nil (key, v) [])

/-- One more pair makes any document proper. -/
theorem isProper_push (d : Document) (key : String) (v : Value) : (d.push key v).IsProper := by
  cases d with
  | empty => exact isProper_single key v
  | entries ps =>
    have hpair : [(key, v)] ≠ [] := List.cons_ne_nil (key, v) []
    exact isProper_entries.mpr (List.append_ne_nil_of_right_ne_nil ps hpair)

theorem isProper_append {d e : Document} (hd : d.IsProper) (he : e.IsProper) :
    (d ++ e).IsProper := by
  match d, e with
  | .empty, e => exact he
  | .entries ps, .empty => exact hd
  | .entries ps, .entries qs =>
    have hps : ps ≠ [] := isProper_entries.mp hd
    exact isProper_entries.mpr (List.append_ne_nil_of_left_ne_nil hps qs)

theorem isNormal_ofPairs {ps : List (String × Value)} :
    (ofPairs ps).isNormal = true ↔ ∀ p ∈ ps, p.2.isNormal = true := by
  rw [isNormal_iff, pairs_ofPairs]
  exact and_iff_right (isProper_ofPairs ps)

/-! ### Joining documents -/

@[simp] theorem empty_append (d : Document) : .empty ++ d = d := rfl

@[simp] theorem append_empty (d : Document) : d ++ .empty = d := by
  cases d <;> rfl

theorem append_assoc (d e f : Document) : d ++ e ++ f = d ++ (e ++ f) := by
  match d, e, f with
  | .empty, e, f => rfl
  | d, .empty, f => rw [append_empty, empty_append]
  | d, e, .empty => rw [append_empty, append_empty]
  | .entries ps, .entries qs, .entries rs =>
    exact congrArg entries (List.append_assoc ps qs rs)

theorem push_eq_append (d : Document) (key : String) (v : Value) :
    d.push key v = d ++ .single key v := by
  cases d <;> rfl

theorem getAll_append (d e : Document) (key : String) :
    (d ++ e).getAll key = d.getAll key ++ e.getAll key := by
  unfold getAll
  rw [pairs_append, List.filter_append, List.map_append]

end Document

/-! ### Reading -/

mutual
theorem Value.isNormal_of_ofJson? : ∀ {j : Json} {v : Value},
    Value.ofJson? j = some v → v.isNormal = true
  | .null, _, h | .bool _, _, h | .int _, _, h | .double _, _, h | .str _, _, h => by
    cases h
    rfl
  | .arr items, _, h => by
    obtain ⟨vs, hvs, rfl⟩ := Option.map_eq_some_iff.mp h
    exact valuesNormal_of_ofJson? hvs
  | .obj pairs, _, h => by
    obtain ⟨ps, hps, rfl⟩ := Option.map_eq_some_iff.mp h
    exact Document.isNormal_ofPairs.mpr (pairsNormal_iff.mp (pairsNormal_of_ofJson? hps))

theorem valuesNormal_of_ofJson? : ∀ {js : List Json} {vs : List Value},
    valuesOfJson? js = some vs → valuesNormal vs = true
  | [], _, h => by
    cases h
    rfl
  | j :: js, _, h => by
    obtain ⟨v, hv, h⟩ := Option.bind_eq_some_iff.mp h
    obtain ⟨vs, hvs, h⟩ := Option.bind_eq_some_iff.mp h
    cases h
    exact Bool.and_eq_true_iff.mpr ⟨Value.isNormal_of_ofJson? hv, valuesNormal_of_ofJson? hvs⟩

theorem pairsNormal_of_ofJson? : ∀ {qs : List (String × Json)} {ps : List (String × Value)},
    pairsOfJson? qs = some ps → pairsNormal ps = true
  | [], _, h => by
    cases h
    rfl
  | (k, j) :: qs, _, h => by
    obtain ⟨v, hv, h⟩ := Option.bind_eq_some_iff.mp h
    obtain ⟨ps, hps, h⟩ := Option.bind_eq_some_iff.mp h
    cases h
    exact Bool.and_eq_true_iff.mpr ⟨Value.isNormal_of_ofJson? hv, pairsNormal_of_ofJson? hps⟩
end

mutual
theorem Value.isNormal_ofUnique : ∀ u : Json.Unique, (Value.ofUnique u).isNormal = true
  | .null | .bool _ | .str _ => rfl
  | .number n => by
    rw [Value.ofUnique]
    split <;> rfl
  | .arr items => valuesNormal_ofUnique items
  | .obj pairs => Document.isNormal_ofPairs.mpr (pairsNormal_iff.mp (pairsNormal_ofUnique pairs))

theorem valuesNormal_ofUnique : ∀ us : List Json.Unique, valuesNormal (valuesOfUnique us) = true
  | [] => rfl
  | u :: us => Bool.and_eq_true_iff.mpr ⟨Value.isNormal_ofUnique u, valuesNormal_ofUnique us⟩

theorem pairsNormal_ofUnique : ∀ ps : List (String × Json.Unique),
    pairsNormal (pairsOfUnique ps) = true
  | [] => rfl
  | (_, u) :: ps => Bool.and_eq_true_iff.mpr ⟨Value.isNormal_ofUnique u, pairsNormal_ofUnique ps⟩
end

namespace Document

theorem isNormal_of_ofJson {j : Json} {d : Document} (h : ofJson j = .ok d) :
    d.isNormal = true := by
  unfold ofJson at h
  split at h
  · cases h
  · rename_i v hv
    match v with
    | .document d' =>
      cases h
      exact Value.isNormal_of_ofJson? hv
    | .native _ | .array _ => cases h

theorem ofJson_of_parse {s : String} {d : Document} (h : parse s = .ok d) :
    ∃ j, ofJson j = .ok d := by
  unfold parse at h
  split at h
  · cases h
  · rename_i j rest _
    split at h
    · cases h
    · rename_i d' hd
      split at h
      · cases h
        exact ⟨j, hd⟩
      · cases h

/-! ### Built documents -/

/-- The documents that operations on documents give, in any combination, if all values that are put
into them are as `P` says.  Pairs may come from any list, a single pair is a document as well, and
a document can be read from a tree or a text. -/
inductive Built (P : Value → Prop) : Document → Prop where
  | empty : Built P .empty
  | ofPairs {ps : List (String × Value)} (values : ∀ p ∈ ps, P p.2) : Built P (.ofPairs ps)
  | single (key : String) {v : Value} (value : P v) : Built P (.single key v)
  | push {d : Document} (key : String) {v : Value} (before : Built P d) (value : P v) :
      Built P (d.push key v)
  | append {d e : Document} (left : Built P d) (right : Built P e) : Built P (d ++ e)
  | ofJson {j : Json} {d : Document} (read : Document.ofJson j = .ok d) : Built P d
  | parse {s : String} {d : Document} (read : Document.parse s = .ok d) : Built P d

namespace Built
variable {P : Value → Prop} {d : Document}

/-- No combination of operations comes to `entries []`, not even if it occurs in the values. -/
theorem isProper (h : d.Built P) : d.IsProper := by
  induction h with
  | empty => exact isProper_empty
  | ofPairs _ => exact isProper_ofPairs _
  | single key _ => exact isProper_single key _
  | push key _ _ _ => exact isProper_push _ key _
  | append _ _ ihd ihe => exact isProper_append ihd ihe
  | ofJson read => exact (isNormal_iff.mp (isNormal_of_ofJson read)).1
  | parse read =>
    obtain ⟨j, hj⟩ := ofJson_of_parse read
    exact (isNormal_iff.mp (isNormal_of_ofJson hj)).1

/-- A document that is built from normal values has normal values. -/
theorem pairs_normal (hP : ∀ v, P v → v.isNormal = true) (h : d.Built P) :
    ∀ p ∈ d.pairs, p.2.isNormal = true := by
  induction h with
  | empty => exact List.forall_mem_nil _
  | ofPairs values =>
    rw [pairs_ofPairs]
    exact fun p hp => hP p.2 (values p hp)
  | single key value => exact List.forall_mem_singleton.mpr (hP _ value)
  | push key _ value ih =>
    rw [pairs_push]
    exact List.forall_mem_append.mpr ⟨ih, List.forall_mem_singleton.mpr (hP _ value)⟩
  | append _ _ ihd ihe =>
    rw [pairs_append]
    exact List.forall_mem_append.mpr ⟨ihd, ihe⟩
  | ofJson read => exact (isNormal_iff.mp (isNormal_of_ofJson read)).2
  | parse read =>
    obtain ⟨j, hj⟩ := ofJson_of_parse read
    exact (isNormal_iff.mp (isNormal_of_ofJson hj)).2

theorem isNormal (hP : ∀ v, P v → v.isNormal = true) (h : d.Built P) : d.isNormal = true :=
  isNormal_iff.mpr ⟨h.isProper, h.pairs_normal hP⟩

end Built
end Document
end DocQuery
