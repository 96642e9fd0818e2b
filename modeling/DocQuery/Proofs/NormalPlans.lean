import DocQuery.Proofs.Concatenation
import DocQuery.Proofs.ProperDocuments
import DocQuery.Proofs.QueryText
import DocQuery.Proofs.RecordWrites
import DocQuery.Proofs.Selections
import DocQuery.Proofs.UpdateCommands

/-! # Plans have proper documents only

Planning nests documents: operators beside fields, conditions in connectives, a filter and an order
in one document, field updates under their operators.  No stage makes a document that is not proper
(`Document.IsProper`) where none was given.  Stage by stage, what is planned from normal literals,
parameters and records is normal, so all documents of a plan are proper, at any depth
(`Planner.isProper_of_plan`).  Together with what is built and read, no document ever has to be told
from an empty one by its pairs (`documents_stay_normal`). -/
namespace DocQuery

/-! ### The values that go into a task -/

namespace Expr

/-- The value of an expression that is a literal. -/
def literal? : Expr → Option Value
  | .literal value => some value
  | _ => none

/-- The literals in an expression. -/
def literals (e : Expr) : List Value := e.nodes.filterMap literal?

/-- All literals in the expression are normal. -/
abbrev IsNormal (e : Expr) : Prop :=
  e.Everywhere fun x => ∀ v, x.literal? = some v → v.isNormal = true

theorem isNormal_iff_literals {e : Expr} : e.IsNormal ↔ ∀ v ∈ e.literals, v.isNormal = true := by
  constructor
  · intro h v hv
    obtain ⟨x, hx, hv⟩ := List.mem_filterMap.mp hv
    exact h x hx v hv
  · intro h x hx v hv
    exact h v (List.mem_filterMap.mpr ⟨x, hx, hv⟩)

end Expr

/-- The values that are given with a task: the literals of its query and the parameters, or the
values of its records. -/
def Task.inputs : Task → List Value
  | .find q params | .count q params | .updateAll q params | .deleteAll q params =>
      q.exprs.flatMap Expr.literals ++ params
  | .insert _ _ record => record.pairs.map Prod.snd
  | .update _ _ values filter => (values.pairs ++ filter.pairs).map Prod.snd
  | .delete _ _ filter => filter.pairs.map Prod.snd

/-! ### Values -/

theorem Cast.isNormal_of_value? {cast : Cast} {v w : Value} (h : cast.value? v = some w) :
    w.isNormal = true :=
  Cast.of_value? (fun _ => rfl) (fun _ => valuesNormal_iff.mpr) h

theorem CompareOp.isNormal_compared (op : CompareOp) {v : Value} (hv : v.isNormal = true) :
    (op.compared v).isNormal = true := by
  cases op with
  | eq => exact hv
  | _ => exact (Value.isNormal_single _ v).trans hv

theorem Expr.isNormal_negated (e : Expr) {p : String × Value} (hp : p.2.isNormal = true) :
    (e.negated p).2.isNormal = true := by
  unfold negated
  split
  · exact (Value.isNormal_single _ _).trans hp
  · exact (Value.isNormal_single _ _).trans hp
  · -- the members are taken out of one document and put into another
    exact (Value.isNormal_single _ _).trans ((Value.isNormal_single _ _).symm.trans hp)
  · exact (Value.isNormal_single _ _).trans hp

/-! ### Filters, orders and selections -/

namespace Scope
variable {s : Scope} {clause : Clause}

section Values
variable (hparams : ∀ v ∈ s.params, v.isNormal = true)
include hparams

theorem isNormal_value? {e : Expr} {v : Value} (he : e.IsNormal)
    (h : e.value? s.params = some v) : v.isNormal = true := by
  cases e with
  | literal value => exact Expr.everywhere_literal.mp he v h
  | param index => exact hparams v (List.mem_of_getElem? h)
  | tagged value cast =>
    obtain ⟨u, -, hv⟩ := Option.bind_eq_some_iff.mp h
    exact Cast.isNormal_of_value? hv
  | _ => cases h

theorem isNormal_comparand? {op : CompareOp} {e : Expr} {v : Value} (he : e.IsNormal)
    (h : e.comparand? s.params op = some v) : v.isNormal = true := by
  unfold Expr.comparand? at h
  split at h
  · cases h
    refine valuesNormal_iff.mpr fun w hw => hparams w ?_
    exact List.mem_of_mem_drop (List.mem_of_mem_take hw)
  · exact isNormal_value? hparams he h

theorem isNormal_operands {es : List Expr} {vs : List Value} (hes : ∀ e ∈ es, e.IsNormal)
    (hcondition : ∀ e ∈ es, ∀ p, s.condition clause e = .ok p → p.2.isNormal = true)
    (h : es.mapM (s.operand clause) = .ok vs) : (Value.array vs).isNormal = true := by
  refine valuesNormal_iff.mpr fun v hv => ?_
  obtain ⟨e, he, hev⟩ := exists_mem_of_forall₂ (mapM_eq_ok.mp h) hv
  rcases of_operand_eq_ok hev with ⟨-, p, hp, rfl⟩ | ⟨-, hvalue⟩
  · exact (Value.isNormal_single _ _).trans (hcondition e he p hp)
  · exact isNormal_value? hparams (hes e he) hvalue

/-- What a condition has beside its key is normal. -/
theorem isNormal_condition {e : Expr} {p : String × Value} (he : e.IsNormal)
    (h : s.condition clause e = .ok p) : p.2.isNormal = true := by
  induction e generalizing p with
  | and es ih =>
    obtain ⟨vs, hvs, rfl⟩ := map_eq_ok.mp (condition_and s clause es ▸ h)
    have hes := (Expr.everywhere_and.mp he).2
    exact isNormal_operands hparams hes (fun e he p hp => ih e he (hes e he) hp) hvs
  | or es ih =>
    obtain ⟨vs, hvs, rfl⟩ := map_eq_ok.mp (condition_or s clause es ▸ h)
    have hes := (Expr.everywhere_or.mp he).2
    exact isNormal_operands hparams hes (fun e he p hp => ih e he (hes e he) hp) hvs
  | not operand ih =>
    obtain ⟨q, hq, rfl⟩ := map_eq_ok.mp (condition_not s clause operand ▸ h)
    exact operand.isNormal_negated (ih (Expr.everywhere_not.mp he).2 hq)
  | isNil operand =>
    obtain ⟨key, -, rfl⟩ := map_eq_ok.mp (condition_isNil s clause operand ▸ h)
    rfl
  | compare op left right =>
    obtain ⟨name, v, -, hv, rfl⟩ := of_comparison_eq_ok (condition_compare s clause _ _ _ ▸ h)
    have hright : right.IsNormal := (Expr.everywhere_compare.mp he).2.2
    exact op.isNormal_compared (isNormal_comparand? hparams hright hv)
  | param index =>
    obtain ⟨source, -, rfl⟩ := of_code_eq_ok (condition_param s clause index ▸ h)
    rfl
  | _ =>
    simp only [condition] at h
    cases h

end Values

theorem isNormal_planPairs {α : Type} {pair : α → Planned (String × Value)} {items : List α}
    {d : Document} (hpair : ∀ a ∈ items, ∀ p, pair a = .ok p → p.2.isNormal = true)
    (h : planPairs pair items = .ok d) : d.isNormal = true := by
  obtain ⟨ps, hps, rfl⟩ := map_eq_ok.mp h
  refine Document.isNormal_ofPairs.mpr fun p hp => ?_
  obtain ⟨a, ha, hap⟩ := exists_mem_of_forall₂ (mapM_eq_ok.mp hps) hp
  exact hpair a ha p hap

theorem isNormal_filter (hparams : ∀ v ∈ s.params, v.isNormal = true) {es : List Expr}
    {filter : Document} (hes : ∀ e ∈ es, e.IsNormal) (h : s.filter clause es = .ok filter) :
    filter.isNormal = true :=
  isNormal_planPairs (fun e he _ hp => isNormal_condition hparams (hes e he) hp) h

/-- Directions are integers. -/
theorem isNormal_order {items : List OrderItem} {order : Document}
    (h : s.order items = .ok order) : order.isNormal = true := by
  refine isNormal_planPairs (fun item _ p hp => ?_) h
  obtain ⟨key, -, hp⟩ := bind_eq_ok.mp hp
  obtain rfl := pure_eq_ok.mp hp
  rfl

end Scope

/-- The documents in what is noted of a selected item. -/
def Output.documents : Output → List Document
  | .value v => v.documents
  | .record _ | .key _ => []

theorem Scope.isProper_of_selection {s : Scope} {source : Source} {selection : Option (List Expr)}
    {selected : Selected} (hparams : ∀ v ∈ s.params, v.isNormal = true)
    (hselection : ∀ e ∈ selection.getD [], e.IsNormal)
    (h : s.selection source selection = .ok selected) :
    ∀ d ∈ selected.outputs.flatMap Output.documents, d.IsProper := by
  intro d hd
  obtain ⟨o, ho, hd⟩ := List.mem_flatMap.mp hd
  obtain ⟨e, he, heo⟩ := exists_mem_of_forall₂ (selection_eq_ok.mp h).1 ho
  cases heo with
  | record | key => cases hd
  | value hv =>
    have hnormal := isNormal_value? hparams (hselection e he) hv
    exact (Value.isNormal_iff_documents _).mp hnormal d hd

theorem Selected.isNormal_projection (outputs : List Output) :
    (ofOutputs outputs).projection.isNormal = true := by
  rw [projection_ofOutputs]
  split
  · rfl
  · refine Document.isNormal_ofPairs.mpr fun p hp => ?_
    obtain ⟨o, -, hp⟩ := List.mem_flatMap.mp hp
    cases o with
    | key name =>
      obtain rfl := List.mem_singleton.mp hp
      rfl
    | value | record => cases hp

theorem Find.isNormal_compose {filter order : Document} (hfilter : filter.isNormal = true)
    (horder : order.isNormal = true) : (compose filter order).isNormal = true := by
  unfold compose
  split
  · exact hfilter
  · refine Document.isNormal_ofPairs.mpr (List.forall_mem_cons.mpr ⟨hfilter, ?_⟩)
    exact List.forall_mem_singleton.mpr horder

/-! ### Records and commands -/

namespace Scope
variable {s : Scope} {clause : Clause}

theorem isNormal_record {pairs : List (String × Value)} {d : Document}
    (hpairs : ∀ v ∈ pairs.map Prod.snd, v.isNormal = true) (h : s.record clause pairs = .ok d) :
    d.isNormal = true := by
  obtain ⟨-, rfl⟩ := record_eq_ok.mp h
  refine Document.isNormal_ofPairs.mpr (List.forall_mem_map.mpr fun p hp => ?_)
  exact hpairs p.2 (List.mem_map_of_mem hp)

theorem isNormal_updatePairs (hparams : ∀ v ∈ s.params, v.isNormal = true)
    {fields : List (String × Expr)} {pairs : List (String × Value)}
    (hfields : ∀ f ∈ fields, f.2.IsNormal) (h : s.updatePairs fields = .ok pairs) :
    ∀ p ∈ pairs, p.2.isNormal = true := by
  intro p hp
  obtain ⟨f, hf, -, hvalue⟩ := exists_mem_of_forall₂ (resolves_of_updatePairs h) hp
  exact isNormal_value? hparams (hfields f hf) hvalue

end Scope

theorem Changes.isNormal_setCommand {d : Document} (h : d.isNormal = true) :
    (setCommand d).isNormal = true :=
  (Value.isNormal_single UpdateOp.set.operator (.document d)).trans h

theorem Changes.isNormal_command {groups : List (UpdateOp × List (String × Value))}
    (h : ∀ g ∈ groups, ∀ p ∈ g.2, p.2.isNormal = true) :
    (ofGroups groups).command.isNormal = true := by
  rw [command_ofGroups]
  refine Document.isNormal_ofPairs.mpr (List.forall_mem_map.mpr fun op _ => ?_)
  refine Document.isNormal_ofPairs.mpr fun p hp => ?_
  obtain ⟨g, hg, hp⟩ := List.mem_flatMap.mp hp
  exact h g (List.mem_of_mem_filter hg) p hp

theorem Scope.isNormal_updateCommand {s : Scope} (hparams : ∀ v ∈ s.params, v.isNormal = true)
    {groups : List UpdateGroup} {command : Document}
    (hgroups : ∀ g ∈ groups, ∀ f ∈ g.fields, f.2.IsNormal)
    (h : s.updateCommand groups = .ok command) : command.isNormal = true := by
  rw [updateCommand_eq_map] at h
  obtain ⟨changes, hchanges, rfl⟩ := map_eq_ok.mp h
  refine Changes.isNormal_command fun change hchange => ?_
  obtain ⟨g, hg, hplanned⟩ := exists_mem_of_forall₂ (mapM_eq_ok.mp hchanges) hchange
  obtain ⟨pairs, hpairs, rfl⟩ := map_eq_ok.mp hplanned
  exact isNormal_updatePairs hparams (hgroups g hg) hpairs

/-! ### Plans -/

/-- The documents of a plan at any depth, those of its options included. -/
def Plan.documents : Plan → List Document
  | .find f =>
      f.query.documents ++ f.projection.documents ++ documentsOfValues f.params ++
        f.outputs.flatMap Output.documents ++ f.paging.toDocument.documents
  | .count c => c.filter.documents ++ c.paging.toDocument.documents
  | .write w =>
      w.filter.documents ++ w.command.toList.flatMap Document.documents ++ w.options.documents

theorem Write.isNormal_options (w : Write) : w.options.isNormal = true := by
  unfold options optionsOf
  split <;> rfl

theorem Plan.isProper_of_write {w : Write} (hfilter : w.filter.isNormal = true)
    (hcommand : ∀ command, w.command = some command → command.isNormal = true) :
    ∀ d ∈ (Plan.write w).documents, d.IsProper := by
  simp only [documents, List.forall_mem_append]
  refine ⟨⟨w.filter.isNormal_iff_documents.mp hfilter, ?_⟩,
    w.options.isNormal_iff_documents.mp w.isNormal_options⟩
  intro d hd
  obtain ⟨command, hmem, hd⟩ := List.mem_flatMap.mp hd
  have hnormal : command.isNormal = true := hcommand command (Option.mem_toList.mp hmem)
  exact command.isNormal_iff_documents.mp hnormal d hd

namespace Scope
variable {s : Scope} {q : Query} (hparams : ∀ v ∈ s.params, v.isNormal = true)
  (hq : q.Each Expr.IsNormal)
include hparams hq

theorem isNormal_matching {filter : Document} (h : s.matching q = .ok filter) :
    filter.isNormal = true := by
  obtain ⟨_, -, hfilter⟩ := bind_eq_ok.mp h
  exact isNormal_filter hparams hq.conditions hfilter

theorem isProper_of_find {f : Find} (h : s.find q = .ok f) :
    ∀ d ∈ (Plan.find f).documents, d.IsProper := by
  obtain ⟨_, -, h⟩ := bind_eq_ok.mp h
  obtain ⟨filter, hfilter, h⟩ := bind_eq_ok.mp h
  obtain ⟨order, horder, h⟩ := bind_eq_ok.mp h
  obtain ⟨selected, hselected, h⟩ := bind_eq_ok.mp h
  obtain ⟨paging, -, h⟩ := bind_eq_ok.mp h
  obtain rfl := pure_eq_ok.mp h
  have hcomposed : (Find.compose filter order).isNormal = true :=
    Find.isNormal_compose (isNormal_filter hparams hq.conditions hfilter) (isNormal_order horder)
  have hselection : ∀ e ∈ q.selection.getD [], e.IsNormal := by
    intro e he
    cases hitems : q.selection with
    | none =>
      rw [hitems] at he
      cases he
    | some items =>
      rw [hitems] at he
      exact hq.selection items hitems e he
  simp only [Plan.documents, List.forall_mem_append]
  refine ⟨⟨⟨⟨?_, ?_⟩, ?_⟩, ?_⟩, ?_⟩
  · exact (Find.compose filter order).isNormal_iff_documents.mp hcomposed
  · rw [(selection_eq_ok.mp hselected).2]
    exact (Document.isNormal_iff_documents _).mp (Selected.isNormal_projection selected.outputs)
  · exact (valuesNormal_iff_documents s.params).mp (valuesNormal_iff.mpr hparams)
  · exact isProper_of_selection hparams hselection hselected
  · exact paging.toDocument.isNormal_iff_documents.mp rfl

theorem isProper_of_count {c : Count} (h : s.count q = .ok c) :
    ∀ d ∈ (Plan.count c).documents, d.IsProper := by
  obtain ⟨hfilter, -⟩ := of_count_eq_ok h
  refine List.forall_mem_append.mpr ⟨?_, ?_⟩
  · exact c.filter.isNormal_iff_documents.mp (isNormal_matching hparams hq hfilter)
  · exact c.paging.toDocument.isNormal_iff_documents.mp rfl

theorem isProper_of_updateAll {w : Write} (h : s.updateAll q = .ok w) :
    ∀ d ∈ (Plan.write w).documents, d.IsProper := by
  obtain ⟨_, -, h⟩ := bind_eq_ok.mp h
  obtain ⟨filter, hfilter, h⟩ := bind_eq_ok.mp h
  obtain ⟨command, hcommand, h⟩ := bind_eq_ok.mp h
  obtain rfl := pure_eq_ok.mp h
  refine Plan.isProper_of_write (isNormal_filter hparams hq.conditions hfilter) ?_
  rintro _ ⟨⟩
  exact isNormal_updateCommand hparams hq.updates hcommand

theorem isProper_of_deleteAll {w : Write} (h : s.deleteAll q = .ok w) :
    ∀ d ∈ (Plan.write w).documents, d.IsProper := by
  obtain ⟨filter, hfilter, rfl⟩ := map_eq_ok.mp (s.deleteAll_eq_map q ▸ h)
  refine Plan.isProper_of_write (isNormal_matching hparams hq hfilter) ?_
  rintro _ ⟨⟩

end Scope

namespace Scope
variable {s : Scope} {coll : String} {pairs filter : List (String × Value)} {w : Write}

theorem isProper_of_insert (hpairs : ∀ v ∈ pairs.map Prod.snd, v.isNormal = true)
    (h : s.insert coll pairs = .ok w) : ∀ d ∈ (Plan.write w).documents, d.IsProper := by
  obtain ⟨record, hrecord, h⟩ := bind_eq_ok.mp h
  obtain rfl := pure_eq_ok.mp h
  refine Plan.isProper_of_write rfl ?_
  rintro _ ⟨⟩
  exact isNormal_record hpairs hrecord

theorem isProper_of_update (hpairs : ∀ v ∈ (pairs ++ filter).map Prod.snd, v.isNormal = true)
    (h : s.update coll pairs filter = .ok w) :
    ∀ d ∈ (Plan.write w).documents, d.IsProper := by
  rw [List.map_append, List.forall_mem_append] at hpairs
  obtain ⟨filter, hfilter, h⟩ := bind_eq_ok.mp h
  obtain ⟨record, hrecord, h⟩ := bind_eq_ok.mp h
  obtain rfl := pure_eq_ok.mp h
  refine Plan.isProper_of_write (isNormal_record hpairs.2 hfilter) ?_
  rintro _ ⟨⟩
  exact Changes.isNormal_setCommand (isNormal_record hpairs.1 hrecord)

theorem isProper_of_delete (hfilter : ∀ v ∈ filter.map Prod.snd, v.isNormal = true)
    (h : s.delete coll filter = .ok w) : ∀ d ∈ (Plan.write w).documents, d.IsProper := by
  obtain ⟨record, hrecord, h⟩ := bind_eq_ok.mp h
  obtain rfl := pure_eq_ok.mp h
  refine Plan.isProper_of_write (isNormal_record hfilter hrecord) ?_
  rintro _ ⟨⟩

end Scope

/-- All documents of a plan are proper, if the values given with the task are normal. -/
theorem Planner.isProper_of_plan {p : Planner} {t : Task} {plan : Plan}
    (hinputs : ∀ v ∈ t.inputs, v.isNormal = true) (h : p.plan t = .ok plan) :
    ∀ d ∈ plan.documents, d.IsProper := by
  -- a query brings its literals and its parameters
  have hquery {q : Query} {params : List Value}
      (hvalues : ∀ v ∈ q.exprs.flatMap Expr.literals ++ params, v.isNormal = true) :
      q.Each Expr.IsNormal ∧ ∀ v ∈ params, v.isNormal = true := by
    obtain ⟨hliterals, hparams⟩ := List.forall_mem_append.mp hvalues
    refine ⟨Query.each_iff_exprs.mpr fun e he => Expr.isNormal_iff_literals.mpr ?_, hparams⟩
    exact fun v hv => hliterals v (List.mem_flatMap.mpr ⟨e, he, hv⟩)
  cases t with
  | find q params =>
    obtain ⟨hq, hparams⟩ := hquery hinputs
    obtain ⟨f, hf, rfl⟩ := map_eq_ok.mp h
    exact Scope.isProper_of_find hparams hq hf
  | count q params =>
    obtain ⟨hq, hparams⟩ := hquery hinputs
    obtain ⟨c, hc, rfl⟩ := map_eq_ok.mp h
    exact Scope.isProper_of_count hparams hq hc
  | updateAll q params =>
    obtain ⟨hq, hparams⟩ := hquery hinputs
    obtain ⟨w, hw, rfl⟩ := map_eq_ok.mp h
    exact Scope.isProper_of_updateAll hparams hq hw
  | deleteAll q params =>
    obtain ⟨hq, hparams⟩ := hquery hinputs
    obtain ⟨w, hw, rfl⟩ := map_eq_ok.mp h
    exact Scope.isProper_of_deleteAll hparams hq hw
  | insert coll primaryKey record =>
    obtain ⟨w, hw, rfl⟩ := map_eq_ok.mp h
    exact Scope.isProper_of_insert hinputs hw
  | update coll primaryKey values filter =>
    obtain ⟨w, hw, rfl⟩ := map_eq_ok.mp h
    exact Scope.isProper_of_update hinputs hw
  | delete coll primaryKey filter =>
    obtain ⟨w, hw, rfl⟩ := map_eq_ok.mp h
    exact Scope.isProper_of_delete hinputs hw

/-- **Documents stay normal.**  Whatever operations build a document, it is proper, and if the
documents in the values put into it are proper, then all documents in it are; the same holds of
values read from JSON.  All documents of a plan are proper, at any depth, if those in the values
given with the task are.  Joining documents is associative, `empty` changes nothing, the pairs come
one after the other and so do the values under a key, and one more pair is a document more. -/
theorem documents_stay_normal :
    (∀ (P : Value → Prop) (d : Document), d.Built P → d.IsProper ∧
      ((∀ v, P v → ∀ e ∈ v.documents, e.IsProper) → ∀ e ∈ d.documents, e.IsProper)) ∧
    (∀ (j : Json) (v : Value), Value.ofJson? j = some v → ∀ d ∈ v.documents, d.IsProper) ∧
    (∀ u : Json.Unique, ∀ d ∈ (Value.ofUnique u).documents, d.IsProper) ∧
    (∀ (p : Planner) (t : Task) (plan : Plan),
      (∀ v ∈ t.inputs, ∀ d ∈ v.documents, d.IsProper) → p.plan t = .ok plan →
        ∀ d ∈ plan.documents, d.IsProper) ∧
    ∀ d e f : Document,
      d ++ e ++ f = d ++ (e ++ f) ∧ .empty ++ d = d ∧ d ++ .empty = d ∧
      (d ++ e).pairs = d.pairs ++ e.pairs ∧
      ∀ key, (d ++ e).getAll key = d.getAll key ++ e.getAll key ∧
        ∀ v, d.push key v = d ++ .single key v := by
  refine ⟨?_, ?_, ?_, ?_, ?_⟩
  · intro P d hd
    refine ⟨hd.isProper, fun hP => d.isNormal_iff_documents.mp (hd.isNormal fun v hv => ?_)⟩
    exact v.isNormal_iff_documents.mpr (hP v hv)
  · intro j v hv
    exact v.isNormal_iff_documents.mp (Value.isNormal_of_ofJson? hv)
  · intro u
    exact (Value.ofUnique u).isNormal_iff_documents.mp (Value.isNormal_ofUnique u)
  · intro p t plan hinputs hplan
    refine Planner.isProper_of_plan (fun v hv => ?_) hplan
    exact v.isNormal_iff_documents.mpr (hinputs v hv)
  · intro d e f
    refine ⟨d.append_assoc e f, d.empty_append, d.append_empty, d.pairs_append e, fun key => ?_⟩
    exact ⟨d.getAll_append e key, d.push_eq_append key⟩

/-- A document with empty ones in it, built by three operations and a reading, and an ordered find
with empty documents among its literals, its parameters and what it selects. -/
theorem documents_stay_normal_of_nesting :
    ∃ (d : Document) (p : Planner) (t : Task) (plan : Plan),
      d.Built (fun v => v.isNormal = true) ∧ (∀ e ∈ d.documents, e.IsProper) ∧
      d.documents.length = 4 ∧ d.getAll "a" = [.document .empty, .array [.document .empty]] ∧
      (∀ v ∈ t.inputs, ∀ e ∈ v.documents, e.IsProper) ∧ p.plan t = .ok plan ∧
      (∀ e ∈ plan.documents, e.IsProper) ∧ plan.documents.length = 12 := by
  let d : Document :=
    Document.empty.push "a" (.document .empty) ++ .single "a" (.array [.document .empty]) ++
      .entries [("b", .document .empty)]
  have hd : d.Built fun v => v.isNormal = true :=
    .append (.append (.push "a" .empty rfl) (.single "a" rfl))
      (.ofJson (j := .obj [("b", .obj [])]) rfl)
  let t : Task := .find
    { source := { coll := "users" }
      conditions := [.not (.compare .isIn (.field "id") (.paramRange 0 2)),
        .and [.compare .ne (.field "tags") (.literal (.document .empty))]]
      orders := [[], [{ direction := .descending, expr := .field "id" }]]
      selection := some [.field "id", .param 0] }
    [.document .empty, .array []]
  have ht : ∀ v ∈ t.inputs, ∀ e ∈ v.documents, e.IsProper := by
    have hnormal : ∀ v ∈ t.inputs, v.isNormal = true := by decide
    exact fun v hv => v.isNormal_iff_documents.mp (hnormal v hv)
  obtain ⟨hbuilt, -, -, hplans, -⟩ := documents_stay_normal
  obtain ⟨plan, hplan⟩ : ∃ plan, ({} : Planner).plan t = .ok plan := ⟨_, rfl⟩
  refine ⟨d, {}, t, plan, hd, ?_, rfl, rfl, ht, hplan, hplans {} t plan ht hplan, ?_⟩
  · exact (hbuilt _ d hd).2 fun v hv => v.isNormal_iff_documents.mp hv
  · cases hplan
    rfl

end DocQuery
