import DocQuery.Proofs.Payloads
import Mathlib.Data.List.Induction
import Mathlib.Data.List.Nodup

/-! # How updates are collected into a command

A bulk update comes as a list of groups, each under one operator, and the same operator may come
back any number of times.  The command has each operator once.  Groups are added one by one to what
has been collected, under the place that their operator got when it came first; `Changes.grouped`
says what this amounts to without going through the groups one by one, and one more group keeps it
so (`Changes.add_grouped`).  Nothing is lost, nothing is written twice, and no pair ends up under an
operator that it was not given for (`Scope.updateCommand_collects`). -/
namespace DocQuery

/-! ### First occurrences -/

section FirstOccurrences
variable {α : Type} [DecidableEq α]

theorem eraseDups_concat (as : List α) (a : α) :
    (as ++ [a]).eraseDups = if a ∈ as then as.eraseDups else as.eraseDups ++ [a] := by
  rw [List.eraseDups_append, List.removeAll]
  by_cases ha : a ∈ as
  · simp [ha]
  · simp [ha, List.eraseDups_cons]

theorem nodup_eraseDups (as : List α) : as.eraseDups.Nodup := by
  induction as using List.reverseRecOn with
  | nil => simp
  | append_singleton as a ih =>
    rw [eraseDups_concat]
    split
    · exact ih
    · rename_i ha
      have hnew : a ∉ as.eraseDups := fun h => ha (List.mem_eraseDups.mp h)
      exact List.Nodup.append ih (List.nodup_singleton a) (by simpa using hnew)

end FirstOccurrences

/-! ### Collecting groups -/

namespace Changes

/-- The pairs of all groups under an operator, one group after the other. -/
def pairsUnder (op : UpdateOp) (groups : List (UpdateOp × List (String × Value))) :
    List (String × Value) :=
  (groups.filter fun g => g.1 = op).flatMap Prod.snd

/-- Each operator once, in order of first use, with all its pairs. -/
def grouped (groups : List (UpdateOp × List (String × Value))) : Changes :=
  (groups.map Prod.fst).eraseDups.map fun op => (op, pairsUnder op groups)

/-- Pairs are added at the end of what their operator has, or else as the last operator. -/
theorem add_map {ops : List UpdateOp} (hops : ops.Nodup) (f : UpdateOp → List (String × Value))
    (op : UpdateOp) (pairs : List (String × Value)) :
    add (ops.map fun o => (o, f o)) op pairs =
      if op ∈ ops then ops.map fun o => (o, if o = op then f o ++ pairs else f o)
      else ops.map (fun o => (o, f o)) ++ [(op, pairs)] := by
  induction ops with
  | nil => rfl
  | cons o ops ih =>
    obtain ⟨ho, hops⟩ := List.nodup_cons.mp hops
    rw [List.map_cons, add]
    by_cases hop : o = op
    · subst hop
      -- operators are distinct, so the others stay as they are
      have hrest : ops.map (fun o' => (o', if o' = o then f o' ++ pairs else f o')) =
          ops.map fun o' => (o', f o') := by
        refine List.map_congr_left fun o' ho' => ?_
        have hne : o' ≠ o := fun h => ho (h ▸ ho')
        rw [if_neg hne]
      rw [if_pos rfl, if_pos List.mem_cons_self, List.map_cons, if_pos rfl, hrest]
    · have hmem : op ∈ o :: ops ↔ op ∈ ops := List.mem_cons.trans (or_iff_right (Ne.symm hop))
      rw [if_neg hop, ih hops]
      by_cases hin : op ∈ ops
      · rw [if_pos hin, if_pos (hmem.mpr hin), List.map_cons, if_neg hop]
      · rw [if_neg hin, if_neg (mt hmem.mp hin), List.cons_append]

theorem pairsUnder_concat (o op : UpdateOp) (groups : List (UpdateOp × List (String × Value)))
    (pairs : List (String × Value)) :
    pairsUnder o (groups ++ [(op, pairs)]) =
      if o = op then pairsUnder o groups ++ pairs else pairsUnder o groups := by
  simp only [pairsUnder, List.filter_append, List.flatMap_append]
  by_cases ho : o = op
  · subst ho
    simp
  · simp [ho, Ne.symm ho]

theorem pairsUnder_of_notMem {op : UpdateOp} {groups : List (UpdateOp × List (String × Value))}
    (h : op ∉ groups.map Prod.fst) : pairsUnder op groups = [] := by
  have hnone : groups.filter (fun g => g.1 = op) = [] := by
    refine List.filter_eq_nil_iff.mpr fun g hg hop => h ?_
    exact List.mem_map.mpr ⟨g, hg, of_decide_eq_true hop⟩
  rw [pairsUnder, hnone, List.flatMap_nil]

/-- One more group: what has been collected stays collected, and the pairs of the group join what
their operator has. -/
theorem add_grouped (groups : List (UpdateOp × List (String × Value))) (op : UpdateOp)
    (pairs : List (String × Value)) :
    (grouped groups).add op pairs = grouped (groups ++ [(op, pairs)]) := by
  rw [grouped, add_map (nodup_eraseDups _), grouped, List.map_append, List.map_singleton,
    eraseDups_concat]
  simp only [pairsUnder_concat, List.mem_eraseDups]
  by_cases hop : op ∈ groups.map Prod.fst
  · rw [if_pos hop, if_pos hop]
  · -- a new operator: it had no pairs so far, and the others are not touched
    have hothers : ∀ o ∈ (groups.map Prod.fst).eraseDups, o ≠ op := by
      rintro o ho rfl
      exact hop (List.mem_eraseDups.mp ho)
    rw [if_neg hop, if_neg hop, List.map_append, List.map_singleton, if_pos rfl,
      pairsUnder_of_notMem hop, List.nil_append]
    refine congrArg (· ++ [(op, pairs)]) (List.map_congr_left fun o ho => ?_)
    rw [if_neg (hothers o ho)]

/-- The whole run: groups added one by one are collected by operator. -/
theorem ofGroups_eq_grouped (groups : List (UpdateOp × List (String × Value))) :
    ofGroups groups = grouped groups := by
  induction groups using List.reverseRecOn with
  | nil => rfl
  | append_singleton groups g ih =>
    rw [← add_grouped, ← ih, ofGroups, List.foldl_append]
    rfl

end Changes

/-! ### Commands -/

namespace UpdateOp

/-- The operators of a command for groups under the given operators: each once, in order of first
use, and the one that sets if there are no groups. -/
def inUse : List UpdateOp → List UpdateOp
  | [] => [.set]
  | ops => ops.eraseDups

theorem nodup_inUse (ops : List UpdateOp) : (inUse ops).Nodup := by
  cases ops with
  | nil => exact List.nodup_singleton UpdateOp.set
  | cons op ops => exact nodup_eraseDups (op :: ops)

theorem inUse_ne_nil (ops : List UpdateOp) : inUse ops ≠ [] := by
  cases ops with
  | nil => exact List.cons_ne_nil UpdateOp.set []
  | cons op ops =>
    have hop : op ∈ inUse (op :: ops) := List.mem_eraseDups.mpr List.mem_cons_self
    exact List.ne_nil_of_mem hop

theorem operator_injective : Function.Injective operator := by
  intro a b
  cases a <;> cases b <;> decide

end UpdateOp

namespace Changes

theorem command_of_ne_nil {changes : Changes} (h : changes ≠ []) :
    changes.command =
      .ofPairs (changes.map fun c => (c.1.operator, .document (.ofPairs c.2))) := by
  cases changes with
  | nil => exact absurd rfl h
  | cons c changes => rfl

/-- The command for groups has a document for each operator in use. -/
theorem command_ofGroups (groups : List (UpdateOp × List (String × Value))) :
    (ofGroups groups).command = .ofPairs ((UpdateOp.inUse (groups.map Prod.fst)).map fun op =>
      (op.operator, .document (.ofPairs (pairsUnder op groups)))) := by
  rw [ofGroups_eq_grouped]
  cases groups with
  | nil => rfl
  | cons g groups =>
    have hne : grouped (g :: groups) ≠ [] :=
      mt List.map_eq_nil_iff.mp (UpdateOp.inUse_ne_nil (g.1 :: groups.map Prod.fst))
    rw [command_of_ne_nil hne, grouped, List.map_map]
    rfl

end Changes

section Operators
variable {ops : List UpdateOp} (f : UpdateOp → Value)

theorem keys_ofPairs_map :
    (Document.ofPairs (ops.map fun op => (op.operator, f op))).keys =
      ops.map UpdateOp.operator := by
  rw [Document.keys, Document.pairs_ofPairs, List.map_map]
  rfl

/-- Operators have different keys, so what stands under one is found under its key. -/
theorem getAll_ofPairs_map (hops : ops.Nodup) {op : UpdateOp} (hop : op ∈ ops) :
    (Document.ofPairs (ops.map fun op => (op.operator, f op))).getAll op.operator = [f op] := by
  have hsame : ops.filter (fun o => o.operator == op.operator) = [op] := by
    have hkey : ∀ o : UpdateOp, (o.operator == op.operator) = (o == op) := fun o => by
      rw [Bool.eq_iff_iff, beq_iff_eq, beq_iff_eq, UpdateOp.operator_injective.eq_iff]
    simp only [hkey]
    rw [List.filter_beq, List.count_eq_one_of_mem hops hop, List.replicate_one]
  rw [Document.getAll, Document.pairs_ofPairs, List.filter_map, List.map_map]
  exact congrArg (List.map f) hsame

end Operators

/-! ### Planned commands -/

namespace Scope
variable {s : Scope}

/-- What field updates come to: under the key of each field, the value of its expression. -/
def Resolves (s : Scope) (fields : List (String × Expr)) (pairs : List (String × Value)) : Prop :=
  List.Forall₂ (fun f p => p.1 = s.key f.1 ∧ f.2.value? s.params = some p.2) fields pairs

theorem resolves_of_updatePairs {fields : List (String × Expr)} {pairs : List (String × Value)}
    (h : s.updatePairs fields = .ok pairs) : s.Resolves fields pairs := by
  obtain ⟨given, hgiven, rfl⟩ := map_eq_ok.mp h
  obtain ⟨hfields, -⟩ := encodeFields_eq_ok.mp (inClause_eq_ok.mp hgiven)
  refine List.forall₂_map_right_iff.mpr (hfields.imp fun f p hp => ?_)
  exact ⟨congrArg s.key hp.1, hp.2⟩

theorem updateCommand_eq_map (groups : List UpdateGroup) :
    s.updateCommand groups = (fun changes => (Changes.ofGroups changes).command) <$>
      groups.mapM fun g => (g.op, ·) <$> s.updatePairs g.fields := by
  simp only [updateCommand, bind_pure_comp]

/-- The command, once every group has its pairs. -/
theorem updateCommand_eq_ok {groups : List UpdateGroup}
    {pairs : UpdateGroup → List (String × Value)}
    (h : ∀ g ∈ groups, s.updatePairs g.fields = .ok (pairs g)) :
    s.updateCommand groups = .ok (.ofPairs ((UpdateOp.inUse (groups.map UpdateGroup.op)).map
      fun op => (op.operator,
        .document (.ofPairs ((groups.filter fun g => g.op = op).flatMap pairs))))) := by
  have hgroups : groups.mapM (fun g => (g.op, ·) <$> s.updatePairs g.fields) =
      .ok (groups.map fun g => (g.op, pairs g)) := by
    refine mapM_eq_ok.mpr (List.forall₂_map_right_iff.mpr (List.forall₂_same.mpr ?_))
    exact fun g hg => map_eq_ok.mpr ⟨pairs g, h g hg, rfl⟩
  have hops : (groups.map fun g => (g.op, pairs g)).map Prod.fst = groups.map UpdateGroup.op := by
    rw [List.map_map]
    rfl
  have hpairs : ∀ op, Changes.pairsUnder op (groups.map fun g => (g.op, pairs g)) =
      (groups.filter fun g => g.op = op).flatMap pairs := by
    intro op
    rw [Changes.pairsUnder, List.filter_map, List.flatMap_map]
    rfl
  rw [updateCommand_eq_map, hgroups]
  refine congrArg Except.ok ((Changes.command_ofGroups _).trans ?_)
  simp only [hops, hpairs]

/-- **Groups of updates are collected without loss, repetition or mixing.**  A command is planned
exactly if the fields of every group can be, and otherwise the first group that cannot is the
reason.  The keys of a planned command are distinct; they are the operators of the groups in order
of first use, or the one that sets if there are no groups.  Under each operator stand the pairs of
all its groups, one group after the other. -/
theorem updateCommand_collects (s : Scope) (groups : List UpdateGroup) :
    ((∃ command, s.updateCommand groups = .ok command) ↔
      ∀ g ∈ groups, ∃ pairs, s.updatePairs g.fields = .ok pairs) ∧
    (∀ failure, s.updateCommand groups = .error failure ↔
      ∃ before g after, groups = before ++ g :: after ∧
        (∀ earlier ∈ before, ∃ pairs, s.updatePairs earlier.fields = .ok pairs) ∧
        s.updatePairs g.fields = .error failure) ∧
    ∀ command, s.updateCommand groups = .ok command →
      command.isEmpty = false ∧ command.keys.Nodup ∧
      command.keys = (UpdateOp.inUse (groups.map UpdateGroup.op)).map UpdateOp.operator ∧
      ∃ pairs : UpdateGroup → List (String × Value),
        (∀ g ∈ groups, s.Resolves g.fields (pairs g)) ∧
        ∀ op ∈ UpdateOp.inUse (groups.map UpdateGroup.op), command.getAll op.operator =
          [.document (.ofPairs ((groups.filter fun g => g.op = op).flatMap pairs))] := by
  have haccepted : (∃ command, s.updateCommand groups = .ok command) ↔
      ∀ g ∈ groups, ∃ pairs, s.updatePairs g.fields = .ok pairs := by
    rw [updateCommand_eq_map, exists_map_eq_ok, exists_mapM_eq_ok]
    exact forall₂_congr fun g _ => exists_map_eq_ok
  refine ⟨haccepted, fun failure => ?_, fun command hcommand => ?_⟩
  · rw [updateCommand_eq_map, map_eq_error, mapM_eq_error]
    simp only [exists_map_eq_ok, map_eq_error]
  · have hgroups := haccepted.mp ⟨command, hcommand⟩
    choose! pairs hpairs using hgroups
    have hnodup := UpdateOp.nodup_inUse (groups.map UpdateGroup.op)
    rw [updateCommand_eq_ok hpairs] at hcommand
    cases hcommand
    rw [keys_ofPairs_map]
    refine ⟨?_, hnodup.map UpdateOp.operator_injective, rfl, pairs, ?_, ?_⟩
    · cases hops : UpdateOp.inUse (groups.map UpdateGroup.op) with
      | nil => exact absurd hops (UpdateOp.inUse_ne_nil _)
      | cons op ops => rfl
    · exact fun g hg => resolves_of_updatePairs (hpairs g hg)
    · exact fun op hop => getAll_ofPairs_map _ hnodup hop

/-- Two operators in turn, a group without fields, and the primary key set twice. -/
theorem updateCommand_collects_in_turn :
    ∃ (s : Scope) (groups : List UpdateGroup) (command : Document),
      groups.map UpdateGroup.op = [.set, .push, .set, .push] ∧
      s.updateCommand groups = .ok command ∧ command.keys.Nodup ∧
      command.keys = ["$set", "$push"] ∧
      command.getAll "$set" = [.document (.ofPairs [("_id", .int 1), ("_id", .int 2)])] := by
  let s : Scope := { params := [.int 2], primaryKey := some "id", identityKey := "_id" }
  let groups : List UpdateGroup :=
    [{ op := .set, fields := [("id", .literal (.int 1))] }, { op := .push, fields := [] },
      { op := .set, fields := [("id", .param 0)] }, { op := .push, fields := [("tags", .param 0)] }]
  obtain ⟨command, hcommand⟩ : ∃ command, s.updateCommand groups = .ok command := ⟨_, rfl⟩
  obtain ⟨-, hnodup, hkeys, -⟩ := (updateCommand_collects s groups).2.2 command hcommand
  refine ⟨s, groups, command, rfl, hcommand, hnodup, hkeys.trans (by decide), ?_⟩
  cases hcommand
  rfl

end Scope
end DocQuery
