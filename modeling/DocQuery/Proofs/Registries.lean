import DocQuery.Plan.Task
import Mathlib.Data.List.Induction

/-! # Primary keys of models

Single records look up the primary key of their model in the pairs that the planner holds, and
queries in a registry that is filled from those pairs, one after the other.  Filling replaces what
a model had, so that in both the last pair of a model counts, and both find the same key
(`Planner.primaryKey_scope`), whatever the pairs are. -/
namespace DocQuery

namespace Registry

theorem primaryKey?_concat (r : Registry) (model key name : String) :
    primaryKey? (r ++ [(model, key)]) name =
      if name = model then some key else r.primaryKey? name := by
  rw [primaryKey?, List.reverse_append, List.reverse_singleton, List.singleton_append,
    List.lookup_cons]
  by_cases h : name = model
  · rw [if_pos h, beq_iff_eq.mpr h]
  · rw [if_neg h, beq_false_of_ne h]
    rfl

/-- Pairs of other models have no say. -/
theorem lookup_filter_ne {name model : String} (h : name ≠ model) (r : Registry) :
    (r.filter fun (m, _) => m ≠ model).lookup name = r.lookup name := by
  induction r with
  | nil => rfl
  | cons p r ih =>
    obtain ⟨m, key⟩ := p
    rw [List.lookup_cons]
    by_cases hm : m = model
    · have hname : (name == m) = false := beq_false_of_ne (hm ▸ h)
      rw [List.filter_cons_of_neg (by simp [hm]), ih, hname]
    · rw [List.filter_cons_of_pos (by simp [hm]), List.lookup_cons, ih]

theorem primaryKey?_register (r : Registry) (model key name : String) :
    (r.register model key).primaryKey? name =
      if name = model then some key else r.primaryKey? name := by
  rw [register, primaryKey?_concat]
  split
  · rfl
  · rename_i h
    rw [primaryKey?, ← List.filter_reverse, lookup_filter_ne h]
    rfl

/-- A registry filled with pairs has the keys that the pairs have. -/
theorem primaryKey?_ofPairs (pairs : List (String × String)) (name : String) :
    (ofPairs pairs).primaryKey? name = primaryKey? pairs name := by
  induction pairs using List.reverseRecOn with
  | nil => rfl
  | append_singleton pairs p ih =>
    obtain ⟨model, key⟩ := p
    have hfilled : ofPairs (pairs ++ [(model, key)]) = (ofPairs pairs).register model key :=
      List.foldl_append
    rw [hfilled, primaryKey?_register, primaryKey?_concat, ih]

end Registry

/-- A query is planned with the key that a single record of its model has. -/
theorem Planner.primaryKey_scope (p : Planner) (q : Query) (params : List Value) :
    (p.scope q params).primaryKey = p.primaryKey? q.source.model := by
  have hkeys : p.schema.primaryKey? = p.registry.primaryKey? :=
    funext (Registry.primaryKey?_ofPairs p.registry)
  rw [scope, primaryKey?, hkeys]

/-- The scope of a query is that of a single record of its model, with parameters. -/
theorem Planner.scope_eq (p : Planner) (q : Query) (params : List Value) :
    p.scope q params = { p.recordScope (p.primaryKey? q.source.model) with params } := by
  rw [← p.primaryKey_scope q params]
  rfl

end DocQuery
