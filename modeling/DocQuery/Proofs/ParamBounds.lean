import DocQuery.Proofs.FailingNodes
import DocQuery.Request.Json

/-! # Accepted requests stay within their parameters

`Query.paramBound` is computed once, over the whole query and with bounds that stop at the
largest index there is; the parameters themselves are read much later, by every stage of
planning for itself.  This module joins the two.  `Expr.Covered n` says of an expression,
without any arithmetic that stops, that `n` parameters are enough for all of its nodes.  The
bound is at most `n` exactly for expressions that are covered (`Expr.paramBound_le_iff`), and
a stage that works on covered expressions is `InBounds`. -/
namespace DocQuery

/-! ### Covered expressions -/

namespace Expr

/-- The node itself reads no parameter from `n` on. -/
def Fits (n : Nat) : Expr → Prop
  | .param index => index.toNat < n
  | .paramRange start count => 0 < count.toNat → start.toNat + count.toNat ≤ n
  | _ => True

/-- No node of the expression reads a parameter from `n` on. -/
abbrev Covered (n : Nat) (e : Expr) : Prop := e.Everywhere (Fits n)

theorem paramBounds_le_iff {n : Nat} {es : List Expr} :
    paramBounds es ≤ n ↔ ∀ e ∈ es, e.paramBound ≤ n := by
  induction es with
  | nil => simp [paramBounds]
  | cons e es ih => rw [paramBounds, Nat.max_le, ih, List.forall_mem_cons]

theorem paramBound_param_le_iff {n : Nat} (hn : n < maxBound) (index : UInt64) :
    (Expr.param index).paramBound ≤ n ↔ (Expr.param index).Fits n := by
  simp only [paramBound, Fits]
  omega

theorem paramBound_paramRange_le_iff {n : Nat} (hn : n < maxBound) (start count : UInt64) :
    (Expr.paramRange start count).paramBound ≤ n ↔ (Expr.paramRange start count).Fits n := by
  simp only [paramBound, Fits]
  split
  · rename_i hcount
    subst hcount
    simp
  · rename_i hcount
    have hpos : 0 < count.toNat := by
      refine Nat.pos_of_ne_zero fun hzero => hcount ?_
      exact UInt64.toNat_inj.mp hzero
    omega

/-- **The bound is exact** for every number of parameters below the largest index: there, a
bound that stops at the largest index says the same as one that does not. -/
theorem paramBound_le_iff {n : Nat} (hn : n < maxBound) (e : Expr) :
    e.paramBound ≤ n ↔ e.Covered n := by
  induction e with
  | param index => exact (paramBound_param_le_iff hn index).trans everywhere_param.symm
  | paramRange start count =>
    exact (paramBound_paramRange_le_iff hn start count).trans everywhere_paramRange.symm
  | tagged value cast ih => simp [paramBound, ih, Fits]
  | isNil operand ih => simp [paramBound, ih, Fits]
  | not operand ih => simp [paramBound, ih, Fits]
  | compare op left right ihl ihr =>
    rw [paramBound, Nat.max_le, ihl, ihr]
    simp [Fits]
  | and es ih | or es ih =>
    rw [paramBound, paramBounds_le_iff]
    simp only [everywhere_and, everywhere_or, Fits, true_and]
    exact forall₂_congr ih
  | _ => simp [paramBound, Fits]

/-! ### Reading parameters -/

theorem paramAt_inBounds {ε : Type} {params : List Value} {index : Nat}
    (h : index < params.length) :
    InBounds (paramAt params index : Except (Failure ε) Value) := by
  rw [paramAt_eq_ok.mpr (List.getElem?_eq_getElem h)]
  exact InBounds.ok _

theorem paramsFrom_inBounds {ε : Type} {params : List Value} {start count : Nat}
    (h : 0 < count → start + count ≤ params.length) :
    InBounds (paramsFrom params start count : Except (Failure ε) (List Value)) := by
  have hslice : count = 0 ∨ start + count ≤ params.length := by omega
  rw [paramsFrom_eq_ok.mpr ⟨hslice, rfl⟩]
  exact InBounds.ok _

theorem eval_inBounds {params : List Value} {e : Expr} (h : e.Covered params.length) :
    InBounds (e.eval params) := by
  induction e with
  | literal value => exact InBounds.ok value
  | param index => exact paramAt_inBounds (everywhere_param.mp h)
  | tagged value cast ih =>
    refine (ih (everywhere_tagged.mp h).2).bind fun v => ?_
    cases cast.value? v with
    | none => exact InBounds.refused _
    | some w => exact InBounds.ok w
  | _ => exact InBounds.refused _

end Expr

/-! ### Stages -/

namespace Scope
variable {s : Scope} {clause : Clause} {α : Type}

/-- A step that fails at the nodes of a covered expression reads nothing outside. -/
theorem inBounds_of_failsIn {e : Expr} {x : Planned α} (hcovered : e.Covered s.params.length)
    (h : FailsOnly (s.FailsIn clause e) x) : InBounds x := by
  intro size index hx
  obtain ⟨node, hnode, hat⟩ := h _ hx
  have hbelow : node.Covered s.params.length := hcovered.below node hnode
  cases hat with
  | missing heval => exact Expr.eval_inBounds hbelow size index heval
  | missingMember hread =>
    have hfits := Expr.everywhere_paramRange.mp hbelow
    exact Expr.paramsFrom_inBounds hfits size index hread

theorem field_inBounds (e : Expr) : InBounds (s.field clause e) := by
  cases e with
  | field name => exact InBounds.ok _
  | _ => exact invalid_inBounds clause _

theorem filter_inBounds {es : List Expr} (h : ∀ e ∈ es, e.Covered s.params.length) :
    InBounds (s.filter clause es) :=
  (InBounds.mapM fun e he => inBounds_of_failsIn (h e he) (condition_failsIn e)).map _

theorem order_inBounds (items : List OrderItem) : InBounds (s.order items) :=
  (InBounds.mapM fun item _ =>
    (field_inBounds item.expr).bind fun _ => InBounds.ok _).map _

theorem selection_inBounds {source : Source} {selection : Option (List Expr)}
    (h : ∀ e ∈ selection.getD [], e.Covered s.params.length) :
    InBounds (s.selection source selection) := by
  rw [selection_eq]
  exact (InBounds.mapM fun e he => inBounds_of_failsIn (h e he) (output_failsIn source e)).map _

theorem integer_inBounds {e? : Option Expr} (h : ∀ e ∈ e?.toList, e.Covered s.params.length) :
    InBounds (s.integer clause e?) := by
  cases e? with
  | none => exact InBounds.ok 0
  | some e => exact inBounds_of_failsIn (h e (by simp)) (integer_failsIn e)

theorem paging_inBounds {limit offset : Option Expr}
    (hlimit : ∀ e ∈ limit.toList, e.Covered s.params.length)
    (hoffset : ∀ e ∈ offset.toList, e.Covered s.params.length) :
    InBounds (s.paging limit offset) :=
  (integer_inBounds hlimit).bind fun _ => (integer_inBounds hoffset).bind fun _ => InBounds.ok _

theorem encodePairs_inBounds (pairs : List (String × Value)) : InBounds (encodePairs pairs) := by
  unfold encodePairs
  split
  · exact InBounds.ok pairs
  · exact InBounds.refused _

theorem updatePairs_inBounds {fields : List (String × Expr)}
    (h : ∀ f ∈ fields, f.2.Covered s.params.length) : InBounds (s.updatePairs fields) := by
  refine (InBounds.inClause .update ?_).map _
  refine (InBounds.mapM fun f hf => ?_).bind encodePairs_inBounds
  exact (Expr.eval_inBounds (h f hf)).bind fun _ => InBounds.ok _

theorem updateCommand_inBounds {groups : List UpdateGroup}
    (h : ∀ g ∈ groups, ∀ f ∈ g.fields, f.2.Covered s.params.length) :
    InBounds (s.updateCommand groups) := by
  refine (InBounds.mapM fun g hg => ?_).bind fun _ => InBounds.ok _
  exact (updatePairs_inBounds (h g hg)).bind fun _ => InBounds.ok _

theorem record_inBounds (pairs : List (String × Value)) : InBounds (s.record clause pairs) :=
  ((encodePairs_inBounds pairs).inClause clause).map _

end Scope

/-! ### Plans -/

theorem Query.check_inBounds (q : Query) : InBounds q.check := by
  unfold check
  split
  · exact InBounds.refused _
  · exact InBounds.ok ()

namespace Scope
variable {s : Scope} {q : Query}

/-- The hypothesis of each bulk plan, taken apart by clause. -/
theorem covered_clauses (h : ∀ e ∈ q.exprs, e.Covered s.params.length) :
    (∀ e ∈ q.conditions, e.Covered s.params.length) ∧
      (∀ e ∈ q.selection.getD [], e.Covered s.params.length) ∧
      (∀ e ∈ q.limit.toList, e.Covered s.params.length) ∧
      (∀ e ∈ q.offset.toList, e.Covered s.params.length) ∧
      ∀ g ∈ q.updates, ∀ f ∈ g.fields, f.2.Covered s.params.length := by
  simp only [Query.exprs, List.forall_mem_append] at h
  obtain ⟨⟨⟨⟨⟨⟨⟨⟨⟨hcond, -⟩, hsel⟩, hlim⟩, hoff⟩, hupd⟩, -⟩, -⟩, -⟩, -⟩ := h
  refine ⟨hcond, hsel, hlim, hoff, fun g hg f hf => hupd f.2 ?_⟩
  exact List.mem_map_of_mem (List.mem_flatMap.mpr ⟨g, hg, hf⟩)

theorem find_inBounds (h : ∀ e ∈ q.exprs, e.Covered s.params.length) : InBounds (s.find q) := by
  obtain ⟨hcond, hsel, hlim, hoff, -⟩ := covered_clauses h
  refine q.check_inBounds.bind fun _ => (filter_inBounds hcond).bind fun _ => ?_
  refine (order_inBounds _).bind fun _ => (selection_inBounds hsel).bind fun _ => ?_
  exact (paging_inBounds hlim hoff).bind fun _ => InBounds.ok _

theorem count_inBounds (h : ∀ e ∈ q.exprs, e.Covered s.params.length) : InBounds (s.count q) := by
  obtain ⟨hcond, -, hlim, hoff, -⟩ := covered_clauses h
  refine q.check_inBounds.bind fun _ => (filter_inBounds hcond).bind fun _ => ?_
  exact (paging_inBounds hlim hoff).bind fun _ => InBounds.ok _

theorem updateAll_inBounds (h : ∀ e ∈ q.exprs, e.Covered s.params.length) :
    InBounds (s.updateAll q) := by
  obtain ⟨hcond, -, -, -, hupd⟩ := covered_clauses h
  refine q.check_inBounds.bind fun _ => (filter_inBounds hcond).bind fun _ => ?_
  exact (updateCommand_inBounds hupd).bind fun _ => InBounds.ok _

theorem deleteAll_inBounds (h : ∀ e ∈ q.exprs, e.Covered s.params.length) :
    InBounds (s.deleteAll q) := by
  obtain ⟨hcond, -⟩ := covered_clauses h
  exact q.check_inBounds.bind fun _ => (filter_inBounds hcond).bind fun _ => InBounds.ok _

end Scope

/-! ### Requests -/

/-- A request whose query is covered by its parameters is answered without reading others. -/
theorem Planner.answer_inBounds (p : Planner) {r : Request}
    (h : ∀ q params, r.query? = some (q, params) → ∀ e ∈ q.exprs, e.Covered params.length) :
    InBounds (p.answer r) := by
  cases r with
  | find q params => exact (Scope.find_inBounds (h q params rfl)).map _
  | count q params => exact (Scope.count_inBounds (h q params rfl)).map _
  | updateAll q params => exact (Scope.updateAll_inBounds (h q params rfl)).map _
  | deleteAll q params => exact (Scope.deleteAll_inBounds (h q params rfl)).map _
  | insert coll model record =>
    exact ((Scope.record_inBounds _).bind fun _ => InBounds.ok _).map _
  | update coll model values filter =>
    exact ((Scope.record_inBounds _).bind fun _ =>
      (Scope.record_inBounds _).bind fun _ => InBounds.ok _).map _
  | delete coll model filter =>
    exact ((Scope.record_inBounds _).bind fun _ => InBounds.ok _).map _

/-- The query of an accepted request needs no more parameters than there are. -/
theorem Request.paramBound_le_of_parse {text : String} {r : Request}
    (h : Request.parse text = .ok r) {q : Query} {params : List Value}
    (hq : r.query? = some (q, params)) : q.paramBound ≤ params.length := by
  unfold parse at h
  split at h
  · cases h
  · split at h
    · cases h
    · rename_i r' _
      unfold checkParams at h
      split at h
      · rename_i q' params' hq'
        split at h
        · cases h
        · rename_i hle
          cases h
          rw [hq] at hq'
          cases hq'
          exact Nat.le_of_not_lt hle
      · rename_i hnone
        cases h
        rw [hq] at hnone
        cases hnone

/-- **An accepted request is answered within its parameters.**  Whatever the planner, the
answer is a plan or a refusal, and never a read outside the parameters. -/
theorem Planner.answer_of_parse (p : Planner) {text : String} {r : Request}
    (hparse : Request.parse text = .ok r)
    (hsize : ∀ q params, r.query? = some (q, params) → params.length < 2 ^ 64 - 1) :
    (∃ plan, p.answer r = .ok plan) ∨ ∃ refusal, p.answer r = .error (.refused refusal) := by
  refine inBounds_iff.mp (p.answer_inBounds fun q params hq e he => ?_)
  have hbound := Request.paramBound_le_of_parse hparse hq
  exact (Expr.paramBound_le_iff (hsize q params hq) e).mp
    (Expr.paramBounds_le_iff.mp hbound e he)

/-- The request below is accepted and answered: its range starts at the largest index there
is, but has no members, and its limit reads the only parameter. -/
theorem Planner.answer_of_parse_empty_range :
    ∃ text r, Request.parse text = .ok r ∧
      (∀ q params, r.query? = some (q, params) → params.length < 2 ^ 64 - 1) ∧
      ((∃ plan, ({} : Planner).answer r = .ok plan) ∨
        ∃ refusal, ({} : Planner).answer r = .error (.refused refusal)) := by
  let members : Json := .obj [("param_range", .arr [.int 18446744073709551615, .int 0])]
  let condition : Json :=
    .obj [("compare", .arr [.str "in", .obj [("field", .str "id")], members])]
  let query : Json :=
    .arr [.arr [.str "users"], .arr [condition], .arr [], .null, .obj [("param", .int 0)]]
  let text := (Json.arr [.str "all", query, .arr [.int 7]]).text
  have hread : ((Request.parse text).toOption.bind Request.query?).map (·.2.length) = some 1 := by
    decide +kernel
  cases hparse : Request.parse text with
  | error e =>
    rw [hparse] at hread
    cases hread
  | ok r =>
    rw [hparse] at hread
    obtain ⟨⟨q', params⟩, hq, hlength⟩ := Option.map_eq_some_iff.mp hread
    have hsize : ∀ q params, r.query? = some (q, params) → params.length < 2 ^ 64 - 1 := by
      intro q'' params' hq'
      rw [show r.query? = some (q', params) from hq] at hq'
      cases hq'
      rw [show params.length = 1 from hlength]
      decide
    exact ⟨text, r, hparse, hsize, Planner.answer_of_parse {} hparse hsize⟩

end DocQuery
